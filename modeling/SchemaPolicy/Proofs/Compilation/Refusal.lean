import SchemaPolicy.Compilation
import SchemaPolicy.Proofs.Declaration.Offence
import SchemaPolicy.Proofs.Extraction.Offence

/-! Schemas with a declaration whose arguments cannot be read are not compiled: a misspelt word or a
word given twice leaves no document, as long as it comes with a value. A word that comes with null
counts for nothing, whatever it is. -/

namespace SchemaPolicy

open Outcome

namespace Declaration

theorem exists_error_of_not_readable {arguments : List Sdl.Argument}
    (h : ¬Readable (Sdl.present arguments)) (typeName : String) :
    ∃ mistake, ofArguments typeName arguments = .error ⟨typeName, mistake⟩ := by
  have hnull : ∀ argument ∈ Sdl.present arguments, argument.2 ≠ .null :=
    fun argument hmem => (Sdl.mem_present_iff.mp hmem).2
  have hunread : ¬∃ next, arguments.foldlM read { typeName } = .ok next := by
    rwa [← foldlM_read_present, exists_foldlM_read_iff hnull]
  unfold ofArguments
  cases hresult : arguments.foldlM read { typeName } with
  | ok declaration => exact absurd ⟨declaration, hresult⟩ hunread
  | error mistake => exact ⟨mistake, rfl⟩

/-- A word that no parameter has, or one given twice, is not read when it comes with a value. -/
theorem not_readable {arguments : List Sdl.Argument}
    (h : (∃ argument ∈ arguments, argument.2 ≠ .null ∧ argument.1 ∉ words) ∨
      ¬((Sdl.present arguments).map (·.1)).Nodup) : ¬Readable (Sdl.present arguments) := by
  rintro ⟨hfits, hdistinct⟩
  rcases h with ⟨argument, hmem, hvalue, hword⟩ | hrepeated
  · obtain ⟨kind, hkind, -⟩ := hfits argument (Sdl.mem_present_iff.mpr ⟨hmem, hvalue⟩)
    rw [expectedKind?_eq_none_of_notMem hword] at hkind
    contradiction
  · exact hrepeated hdistinct

end Declaration

variable {schema : String} {document : Sdl.Document} {config : Config}

/-- There is no document for a schema with a directive whose arguments cannot be read. -/
theorem exists_compile_error {definition : Sdl.Definition} {head : Sdl.TypeHead}
    {directive : Sdl.Directive} {error : AuthoringError} (extraRules : List Rule)
    (hdocument : Sdl.Document.ofText schema = .ok document) (hmem : definition ∈ document)
    (hhead : definition.head? = some head)
    (hdirective : directive ∈ head.declarations config.schema.directive)
    (hunread : Declaration.ofArguments head.name directive.arguments = .error error) :
    ∃ error, (compile schema extraRules config).result = .error error := by
  have hextract : ¬∃ ds, (document.extract config.schema.directive).result = .ok ds := by
    rw [Sdl.Document.exists_extract_iff]
    rintro ⟨hextensions, -, htypes⟩
    cases definition with
    | schema | directive _ => contradiction
    | type other =>
      obtain rfl := Option.some.inj hhead
      obtain ⟨declaration, -, hread, -⟩ := htypes other hmem directive hdirective
      rw [hunread] at hread
      contradiction
    | extension other =>
      obtain rfl := Option.some.inj hhead
      rw [hextensions other hmem] at hdirective
      contradiction
  rw [compile, Traced.result_bind, extract, hdocument]
  cases hresult : (document.extract config.schema.directive).result with
  | ok ds => exact absurd ⟨ds, hresult⟩ hextract
  | error error => exact ⟨error, rfl⟩

/-- A word that no parameter has, or one given twice, is refused when it comes with a value, and so
is every schema with such a directive. -/
theorem unknown_or_repeated_refused {arguments : List Sdl.Argument}
    (h : (∃ argument ∈ arguments, argument.2 ≠ .null ∧ argument.1 ∉ Declaration.words) ∨
      ¬((Sdl.present arguments).map (·.1)).Nodup) :
    (∀ typeName, ∃ mistake,
      Declaration.ofArguments typeName arguments = .error ⟨typeName, mistake⟩) ∧
    ∀ schema document config extraRules definition head directive,
      Sdl.Document.ofText schema = .ok document → definition ∈ document →
      definition.head? = some head → directive ∈ head.declarations config.schema.directive →
      directive.arguments = arguments →
      ∃ error, (compile schema extraRules config).result = .error error := by
  have hrefused := Declaration.exists_error_of_not_readable (Declaration.not_readable h)
  refine ⟨hrefused, ?_⟩
  rintro schema document config extraRules definition head directive hdocument hmem hhead hdirective
    rfl
  obtain ⟨mistake, hmistake⟩ := hrefused head.name
  exact exists_compile_error extraRules hdocument hmem hhead hdirective hmistake

theorem unknown_or_repeated_refused_misspelt :
    ∃ (head : Sdl.TypeHead) (directive : Sdl.Directive),
      Sdl.Document.ofText ("type Post @collection(name: \"posts\", type: DOC_PER_USER, " ++
        "allowDelte: false) \x7b id: ID \x7d") = .ok [.type head] ∧
      head.declarations "collection" = [directive] ∧
      ("allowDelte", .boolean false) ∈ directive.arguments ∧
      "allowDelte" ∉ Declaration.words ∧
      (∃ mistake, Declaration.ofArguments "Post" directive.arguments = .error ⟨"Post", mistake⟩) ∧
      ∃ error, (compile ("type Post @collection(name: \"posts\", type: DOC_PER_USER, " ++
        "allowDelte: false) \x7b id: ID \x7d") [] {}).result = .error error := by
  let directive : Sdl.Directive := ⟨"collection", [("name", .string "posts"),
    ("type", .word "DOC_PER_USER"), ("allowDelte", .boolean false)]⟩
  let head : Sdl.TypeHead :=
    { kind := .object, name := "Post", position := {}, directives := [directive] }
  have hdocument : Sdl.Document.ofText ("type Post @collection(name: \"posts\", " ++
      "type: DOC_PER_USER, allowDelte: false) \x7b id: ID \x7d") = .ok [.type head] := rfl
  have hmem : ("allowDelte", .boolean false) ∈ directive.arguments :=
    .tail _ (.tail _ (.head _))
  have hword : "allowDelte" ∉ Declaration.words := by decide
  obtain ⟨hunread, huncompiled⟩ :=
    unknown_or_repeated_refused (.inl ⟨_, hmem, nofun, hword⟩)
  exact ⟨head, directive, hdocument, rfl, hmem, hword, hunread "Post",
    huncompiled _ _ {} [] _ head directive hdocument (.head _) rfl (.head _) rfl⟩

/-- Behind null, an unknown word and a repeated one go unnoticed, and there is a document. -/
theorem exists_unknown_and_repeated_compiled :
    ∃ (head : Sdl.TypeHead) (directive : Sdl.Directive) (declaration : Declaration),
      Sdl.Document.ofText ("type Post @collection(name: \"posts\", type: DOC_PER_USER, " ++
        "allowDelte: null, name: null) \x7b id: ID \x7d") = .ok [.type head] ∧
      head.declarations "collection" = [directive] ∧
      directive.arguments.map (·.1) = ["name", "type", "allowDelte", "name"] ∧
      "allowDelte" ∉ Declaration.words ∧
      Declaration.ofArguments "Post" directive.arguments = .ok declaration ∧
      (compile ("type Post @collection(name: \"posts\", type: DOC_PER_USER, " ++
        "allowDelte: null, name: null) \x7b id: ID \x7d") [] {}).result =
          .ok (String.ofList (Ruleset.render {} [⟨"posts", .docPerUser⟩] [])) := by
  let directive : Sdl.Directive := ⟨"collection", [("name", .string "posts"),
    ("type", .word "DOC_PER_USER"), ("allowDelte", .null), ("name", .null)]⟩
  let head : Sdl.TypeHead :=
    { kind := .object, name := "Post", position := {}, directives := [directive] }
  let declaration : Declaration :=
    { typeName := "Post", name? := some "posts", pattern? := some "DOC_PER_USER" }
  exact ⟨head, directive, declaration, rfl, rfl, rfl, by decide, rfl, rfl⟩

end SchemaPolicy
