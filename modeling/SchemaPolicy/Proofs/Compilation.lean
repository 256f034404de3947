import SchemaPolicy.Compilation
import SchemaPolicy.Proofs.Collection.Shape
import SchemaPolicy.Proofs.Declaration.Grants
import SchemaPolicy.Proofs.Extraction
import SchemaPolicy.Proofs.Ruleset.Section

/-! From a schema document to the rules in the document made of it: one block for each annotated
type, in order, which grants what the arguments of this type's directive call for. -/

namespace SchemaPolicy

open Text

namespace Sdl

variable {document : Document} {name : String} {ds : List Descriptor}

theorem TypeHead.Declares.wellFormed {head : TypeHead} {d : Descriptor}
    (h : head.Declares name d) : d.toCollection.WellFormed := by
  obtain ⟨_, _, -, -, hd⟩ := h
  exact Declaration.wellFormed hd

theorem Document.wellFormed_of_extract (h : (document.extract name).result = .ok ds) :
    ∀ collection ∈ ds.map Descriptor.toCollection, collection.WellFormed :=
  Ruleset.wellFormed_of_forall₂ (fun _ _ hd => hd.wellFormed) (extract_eq_ok_iff.mp h).2

/-- The lines of a type's block that grant operations are those that the arguments of its directive
call for. -/
theorem Document.allow_lines_of_extract (h : (document.extract name).result = .ok ds) :
    (∀ envelope extraRules,
      Ruleset.render envelope (ds.map Descriptor.toCollection) extraRules =
        Ruleset.preface envelope extraRules ++
          Ruleset.sectionLines (joinWith ['\n', '\n'] (ds.map fun d => d.block)) ++
          Ruleset.tail) ∧
    List.Forall₂ (fun head d => ∃ directive grants, head.declarations name = [directive] ∧
      grantLines? directive.arguments = some grants ∧
      (lines d.block).filter (opensWith "allow ") =
        grants.map fun grant => ("      " ++ grant).toList) (document.annotated name) ds := by
  refine ⟨fun envelope extraRules => ?_, ?_⟩
  · rw [Ruleset.render_eq, Ruleset.generated_descriptors]
  · obtain ⟨-, hall⟩ := Document.extract_eq_ok_iff.mp h
    refine hall.imp fun head d hdeclares => ?_
    obtain ⟨directive, declaration, hone, hread, hd⟩ := hdeclares
    rw [Declaration.eq_given hread] at hd
    obtain ⟨grants, hgrants, hlines⟩ := Declaration.allowLines_of_given hd
    refine ⟨directive, grants, hone, hgrants, ?_⟩
    rw [Collection.filter_lines_block (Declaration.wellFormed hd), Collection.filter_allow, hlines,
      List.map_map]
    rfl

theorem Document.allow_lines_of_extract_posts :
    ∃ (document : Document) (d : Descriptor), (document.extract "collection").result = .ok [d] ∧
      (lines d.block).filter (opensWith "allow ") =
        [holdsLine .create "" "post.add" "request.resource.data.tenantId",
          plainLine .read "true",
          holdsLine .update "" "post.edit" "resource.data.tenantId"].map
            fun grant => ("      " ++ grant).toList := by
  let head : TypeHead :=
    { kind := .object, name := "Post", position := {}
      directives := [⟨"collection", [("name", .string "posts"), ("type", .word "INDEXED_BY_TENANT"),
        ("readPermission", .string "post.see"), ("writePermission", .string "post.add"),
        ("updatePermission", .string "post.edit"), ("deletePermission", .string "post.drop"),
        ("allowPublicRead", .boolean true), ("allowDelete", .boolean false)]⟩] }
  let d : Descriptor :=
    { typeName := "Post", name := "posts"
      protection := .indexedByTenant ⟨"post.see", "post.add", "post.edit", "post.drop"⟩
        ⟨true, true, false⟩ }
  have hextract : (Document.extract [.type head] "collection").result = .ok [d] := rfl
  obtain ⟨-, hall⟩ := Document.allow_lines_of_extract hextract
  obtain ⟨⟨directive, grants, hone, hgrants, hlines⟩, -⟩ := List.forall₂_cons.mp hall
  obtain rfl := List.singleton_inj.mp hone
  obtain rfl := Option.some.inj hgrants
  exact ⟨_, d, hextract, hlines⟩

end Sdl

variable {schema : String} {document : Sdl.Document} {config : Config} {ds : List Descriptor}

/-- A schema is compiled to one block for each annotated type, in order, between parts of the
document that the schema has no influence on. -/
theorem compile_layout (hdocument : Sdl.Document.ofText schema = .ok document)
    (h : (document.extract config.schema.directive).result = .ok ds) :
    (∀ extraRules, (compile schema extraRules config).result = .ok (String.ofList
      (Ruleset.preface config.output.envelope extraRules ++
        (if ds = [] then [] else joinWith ['\n', '\n'] (ds.map fun d => d.block) ++ ['\n']) ++
        Ruleset.tail))) ∧
    List.Forall₂ (fun head d => d.typeName = head.name ∧
      head.Declares config.schema.directive d)
      (document.annotated config.schema.directive) ds ∧
    paragraphs (lines (joinWith ['\n', '\n'] (ds.map fun d => d.block))) =
      (ds.map fun d => lines d.block) ∧
    ∀ d ∈ ds, d.block = joinWith ['\n'] (lines d.block) ∧ d.toCollection.Shape (lines d.block) := by
  have hall := Sdl.Document.wellFormed_of_extract h
  have hwf : ∀ d ∈ ds, d.toCollection.WellFormed :=
    fun d hd => hall _ (List.mem_map_of_mem hd)
  refine ⟨fun extraRules => ?_, ?_, ?_, fun d hd => ⟨?_, Collection.shape_block (hwf d hd)⟩⟩
  · have hextract : (extract schema config.schema.directive).result = .ok ds := by
      rw [extract, hdocument]
      exact h
    have hcompile : (compile schema extraRules config).result = .ok (String.ofList
        (Ruleset.render config.output.envelope (ds.map Descriptor.toCollection) extraRules)) := by
      rw [compile, Traced.result_bind, hextract]
      rfl
    rw [hcompile, Ruleset.render_eq, Ruleset.sectionLines_generated hall,
      Ruleset.generated_descriptors]
    simp only [List.map_eq_nil_iff]
  · exact (Sdl.Document.extract_eq_ok_iff.mp h).2.imp fun head d hd => ⟨hd.typeName_eq, hd⟩
  · rw [← Ruleset.generated_descriptors, Ruleset.paragraphs_generated hall, List.map_map,
      Function.comp_def]
  · rw [Collection.lines_block (hwf d hd), ← Collection.block_eq (hwf d hd)]

theorem compile_layout_profiles :
    ∃ (schema : String) (document : Sdl.Document) (d : Descriptor),
      Sdl.Document.ofText schema = .ok document ∧
      (document.extract "collection").result = .ok [d] ∧
      d.toCollection.Shape (lines d.block) ∧
      (compile schema [] {}).result =
        .ok (String.ofList (Ruleset.preface {} [] ++ (d.block ++ ['\n']) ++ Ruleset.tail)) := by
  let d : Descriptor := { typeName := "Profile", name := "profiles", protection := .docPerUser }
  let head : Sdl.TypeHead :=
    { kind := .object, name := "Profile", position := {}
      directives := [⟨"collection", [("name", .string "profiles"),
        ("type", .word "DOC_PER_USER")]⟩] }
  have hdocument : Sdl.Document.ofText ("type Profile @collection(name: \"profiles\", " ++
      "type: DOC_PER_USER) \x7b id: ID \x7d") = .ok [.type head] := rfl
  have hextract : (Sdl.Document.extract [.type head] ({} : Config).schema.directive).result =
      .ok [d] := rfl
  obtain ⟨hcompile, -, -, hblocks⟩ := compile_layout hdocument hextract
  refine ⟨_, _, d, hdocument, hextract, (hblocks d List.mem_cons_self).2, ?_⟩
  rw [hcompile [], if_neg (List.cons_ne_nil d []), List.map_singleton, joinWith]

end SchemaPolicy
