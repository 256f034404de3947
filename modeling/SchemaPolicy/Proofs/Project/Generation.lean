import SchemaPolicy.Compilation
import SchemaPolicy.Project.Generation
import SchemaPolicy.Proofs.FileTree.Writing
import SchemaPolicy.Proofs.Project.Loading
import SchemaPolicy.Proofs.Traced

/-! Generation reads one file, the schema, and makes of its text what compilation makes of it under
the configuration and the extra rules of the project. -/

namespace SchemaPolicy

open Outcome

/-- Compilation extracts collections and puts them into a document. -/
theorem result_compile (schema : String) (rules : List Rule) (config : Config) :
    (compile schema rules config).result =
      (extract schema config.schema.directive).result.map fun ds => String.ofList
        (Ruleset.render config.output.envelope (ds.map Descriptor.toCollection) rules) := by
  rw [compile, Traced.result_bind]
  cases (extract schema config.schema.directive).result <;> rfl

namespace Project

variable {project : Project} {schema? : Option Path} {tree : FileTree}

/-- The collections of a project among the files of a tree, or what is wrong. -/
def extracted (project : Project) (schema? : Option Path) (tree : FileTree) :
    Except ProjectError (List Descriptor) := do
  let path := project.schemaPath schema?
  let text ← (tree.read path).mapError (.inaccessible path)
  (extract text project.config.schema.directive).result.mapError (.schema path)

/-- The document of a project among the files of a tree, or what is wrong. -/
def generated (project : Project) (schema? : Option Path) (tree : FileTree) :
    Except ProjectError String :=
  (project.extracted schema? tree).map project.render

theorem run_descriptors (project : Project) (schema? : Option Path) (tree : FileTree) :
    ∃ events, (project.descriptors schema?).run.run tree =
      ⟨project.extracted schema? tree, tree, events⟩ := by
  simp only [descriptors, extracted, Script.run_bind_except, run_readProjectFile]
  cases tree.read (project.schemaPath schema?) with
  | error fault => exact ⟨_, rfl⟩
  | ok text =>
    simp only [mapError_ok, Script.andThen_ok, ExceptT.run_mk, Script.run_bind,
      Script.run_ofTraced, Script.run_pure]
    exact ⟨_, rfl⟩

theorem run_generate (project : Project) (schema? : Option Path) (tree : FileTree) :
    ∃ events, (project.generate schema?).run.run tree =
      ⟨project.generated schema? tree, tree, events⟩ := by
  obtain ⟨events, hrun⟩ := project.run_descriptors schema? tree
  simp only [generate, generated, Script.run_bind_except, hrun]
  cases project.extracted schema? tree with
  | error error => exact ⟨_, rfl⟩
  | ok ds => exact ⟨_, rfl⟩

/-- The text of the schema decides what is generated. -/
theorem generated_eq (project : Project) (schema? : Option Path) (tree : FileTree) :
    project.generated schema? tree =
      (tree.read (project.schemaPath schema?)).mapError
          (.inaccessible (project.schemaPath schema?)) >>= fun text =>
        (compile text project.extraRules project.config).result.mapError
          (.schema (project.schemaPath schema?)) := by
  simp only [generated, extracted, result_compile]
  cases tree.read (project.schemaPath schema?) with
  | error fault => rfl
  | ok text =>
    simp only [mapError_ok, bind, Except.bind]
    cases (extract text project.config.schema.directive).result <;> rfl

/-- A document is made of the text of the schema. -/
theorem generated_eq_ok_iff {document : String} :
    project.generated schema? tree = .ok document ↔
      ∃ text, tree.find (project.schemaPath schema?) = .ok (.file (.text text)) ∧
        (compile text project.extraRules project.config).result = .ok document := by
  simp only [generated_eq, bind_eq_ok_iff, mapError_eq_ok_iff, FileTree.read_eq_ok_iff]

theorem value_generate (project : Project) (schema? : Option Path) (tree : FileTree) :
    ((project.generate schema?).run.run tree).value = project.generated schema? tree := by
  obtain ⟨_, hrun⟩ := project.run_generate schema? tree
  rw [hrun]

theorem tree_generate (project : Project) (schema? : Option Path) (tree : FileTree) :
    ((project.generate schema?).run.run tree).tree = tree := by
  obtain ⟨_, hrun⟩ := project.run_generate schema? tree
  rw [hrun]

theorem generated_of_read {schema : String}
    (h : tree.read (project.schemaPath schema?) = .ok schema) :
    project.generated schema? tree =
      (compile schema project.extraRules project.config).result.mapError
        (.schema (project.schemaPath schema?)) := by
  rw [generated_eq, h]
  rfl

/-- What a project generates is what its configuration text makes compilation give for the text of
the schema file, and depends on no other file. -/
theorem generate_compiles {projectDir : Path} {source : Source} {text : String}
    (h : ofText projectDir source text = .ok project) :
    ∃ config rules, Config.ofText text = .ok config ∧ extraRulesOfText text = .ok rules ∧
      ∀ (schema? : Option Path) (tree : FileTree),
        ((project.generate schema?).run.run tree).tree = tree ∧
        (∀ schema, tree.find (project.schemaPath schema?) = .ok (.file (.text schema)) →
          (∀ document, ((project.generate schema?).run.run tree).value = .ok document ↔
            (compile schema rules config).result = .ok document) ∧
          ∀ error, ((project.generate schema?).run.run tree).value =
              .error (.schema (project.schemaPath schema?) error) ↔
            (compile schema rules config).result = .error error) ∧
        ((∀ schema, tree.find (project.schemaPath schema?) ≠ .ok (.file (.text schema))) →
          ∃ fault, ((project.generate schema?).run.run tree).value =
            .error (.inaccessible (project.schemaPath schema?) fault)) ∧
        (∀ changed : FileTree,
          changed.read (project.schemaPath schema?) = tree.read (project.schemaPath schema?) →
          ((project.generate schema?).run.run changed).value =
            ((project.generate schema?).run.run tree).value) ∧
        ∀ target content changed entry, tree.write target content = .ok changed →
          tree.find (project.schemaPath schema?) = .ok entry →
          tree.destination target ≠ tree.locate (project.schemaPath schema?) →
          ((project.generate schema?).run.run changed).value =
            ((project.generate schema?).run.run tree).value := by
  obtain ⟨config, rules, hconfig, hrules, rfl⟩ := ofText_eq_ok_iff.mp h
  refine ⟨config, rules, hconfig, hrules, fun schema? tree => ?_⟩
  simp only [tree_generate, value_generate, true_and]
  refine ⟨fun schema hschema => ?_, fun hnone => ?_, fun changed hread => ?_,
    fun target content changed entry hwrite hfind hne => ?_⟩
  · rw [generated_of_read (FileTree.read_of_find_text hschema)]
    refine ⟨fun document => mapError_eq_ok_iff, fun error => ?_⟩
    rw [mapError_eq_error_iff]
    constructor
    · rintro ⟨cause, hcause, heq⟩
      rwa [(ProjectError.schema.inj heq).2]
    · intro herror
      exact ⟨error, herror, rfl⟩
  · obtain ⟨fault, hfault⟩ := FileTree.exists_read_eq_error hnone
    exact ⟨fault, by rw [generated_eq, hfault]; rfl⟩
  · rw [generated_eq, generated_eq, hread]
  · rw [generated_eq, generated_eq, FileTree.read_write_of_ne hwrite hfind hne]

theorem generate_compiles_firestore :
    ∃ (project : Project) (tree : FileTree),
      ofText ⟨"app"⟩ .defaults "schema.directive = 'firestore'" = .ok project ∧
      tree.find ⟨"app/api"⟩ =
        .ok (.file (.text "scalar Id @firestore(name: \"ids\", type: DOC_PER_USER)")) ∧
      ((project.generate (some ⟨"app/api"⟩)).run.run tree).value =
        .ok (String.ofList (Ruleset.render {} [⟨"ids", .docPerUser⟩] [])) := by
  let project : Project :=
    ⟨.defaults, ⟨"app"⟩, { schema := { directive := "firestore" } }, []⟩
  let tree : FileTree :=
    { entries := [(["app".toList], .directory), (["app".toList, "api".toList],
        .file (.text "scalar Id @firestore(name: \"ids\", type: DOC_PER_USER)"))] }
  have hproject : ofText ⟨"app"⟩ .defaults "schema.directive = 'firestore'" = .ok project :=
    ofText_eq_ok_iff.mpr ⟨{ schema := { directive := "firestore" } }, [],
      eq_ok_of_toOption (by decide +kernel), eq_ok_of_toOption (by decide +kernel), rfl⟩
  have hschema : tree.find ⟨"app/api"⟩ =
      .ok (.file (.text "scalar Id @firestore(name: \"ids\", type: DOC_PER_USER)")) := by rfl
  have hcompile : (compile "scalar Id @firestore(name: \"ids\", type: DOC_PER_USER)"
      project.extraRules project.config).result =
        .ok (String.ofList (Ruleset.render {} [⟨"ids", .docPerUser⟩] [])) := by rfl
  obtain ⟨config, rules, hconfig, hrules, hgenerate⟩ := generate_compiles hproject
  obtain ⟨_, _, hconfig', hrules', heq⟩ := ofText_eq_ok_iff.mp hproject
  obtain rfl := Except.ok.inj (hconfig'.symm.trans hconfig)
  obtain rfl := Except.ok.inj (hrules'.symm.trans hrules)
  rw [heq] at hcompile
  obtain ⟨-, hcompiled, -⟩ := hgenerate (some ⟨"app/api"⟩) tree
  exact ⟨project, tree, hproject, hschema, ((hcompiled _ hschema).1 _).mpr hcompile⟩

end Project

end SchemaPolicy
