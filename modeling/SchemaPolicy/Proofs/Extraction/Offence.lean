import SchemaPolicy.Proofs.Extraction

/-! Which definitions offend, and with which error. A document is extracted exactly when none of its
definitions offends, and else fails with the error of the first that does; whatever carries another
directive, or none, has no part in this. -/

namespace SchemaPolicy.Sdl

open Outcome

/-- What a definition does wrong with the directive called `name`. An addition may not carry it and
a type may not repeat it, whatever the arguments are; a single one needs arguments that can be read
and that declare a collection. -/
inductive Definition.Offends (name : String) : Definition → SchemaError → Prop
  | extension {head : TypeHead} (carries : head.declarations name ≠ []) :
    Offends name (.extension head)
      (.authoring head.position.line ⟨head.name, .directiveOnExtension⟩)
  | repeated {head : TypeHead} (more : 1 < (head.declarations name).length) :
    Offends name (.type head) (.authoring head.position.line ⟨head.name, .repeatedDirective⟩)
  | unreadable {head : TypeHead} {directive : Directive} {error : AuthoringError}
    (single : head.declarations name = [directive])
    (unread : Declaration.ofArguments head.name directive.arguments = .error error) :
    Offends name (.type head) (.authoring head.position.line error)
  | undeclared {head : TypeHead} {directive : Directive} {declaration : Declaration}
    {error : AuthoringError} (single : head.declarations name = [directive])
    (read : Declaration.ofArguments head.name directive.arguments = .ok declaration)
    (faulty : declaration.descriptor = .error error) :
    Offends name (.type head) (.authoring head.position.line error)

/-- The type that a definition defines or adds to. -/
def Definition.head? : Definition → Option TypeHead
  | .type head | .extension head => some head
  | _ => none

/-- What is left of a definition without the directives of other names, if it carries the one called
`name`. -/
def Definition.pared? (name : String) : Definition → Option Definition
  | .type head =>
    if head.declarations name = [] then none
    else some (.type { head with directives := head.declarations name })
  | .extension head =>
    if head.declarations name = [] then none
    else some (.extension { head with directives := head.declarations name })
  | _ => none

/-- What is left of a document without the definitions that do not carry the directive called `name`
and without the directives of other names. -/
def Document.pared (document : Document) (name : String) : Document :=
  document.filterMap (Definition.pared? name)

variable {name : String}

/-! ### One definition -/

theorem TypeHead.descriptor?_eq_error_iff {head : TypeHead} {error : AuthoringError} :
    head.descriptor? name = .error error ↔
      1 < (head.declarations name).length ∧ error = ⟨head.name, .repeatedDirective⟩ ∨
      ∃ directive, head.declarations name = [directive] ∧
        (Declaration.ofArguments head.name directive.arguments = .error error ∨
          ∃ declaration, Declaration.ofArguments head.name directive.arguments = .ok declaration ∧
            declaration.descriptor = .error error) := by
  unfold descriptor?
  cases hdirectives : head.declarations name with
  | nil => simp
  | cons directive others =>
    cases others with
    | nil =>
      simp only [bind_eq_error_iff, pure_ne_error, and_false, exists_false, or_false]
      constructor
      · intro h
        exact .inr ⟨directive, rfl, h⟩
      · rintro (⟨hmore, -⟩ | ⟨_, hone, h⟩)
        · exact absurd hmore (Nat.lt_irrefl 1)
        · obtain ⟨rfl, -⟩ := List.cons.inj hone
          exact h
    | cons _ _ => simp [eq_comm]

theorem Definition.descriptor?_eq_error_iff {definition : Definition} {error : SchemaError} :
    definition.descriptor? name = .error error ↔ definition.Offends name error := by
  constructor
  · intro h
    cases definition with
    | schema => contradiction
    | directive word => contradiction
    | extension head =>
      simp only [descriptor?] at h
      split at h
      · contradiction
      · next hcarries =>
        obtain rfl := Except.error.inj h
        exact .extension hcarries
    | type head =>
      obtain ⟨error, herror, rfl⟩ := mapError_eq_error_iff.mp h
      rcases TypeHead.descriptor?_eq_error_iff.mp herror with
        ⟨hmore, rfl⟩ | ⟨directive, hsingle, hunread | ⟨declaration, hread, hfaulty⟩⟩
      · exact .repeated hmore
      · exact .unreadable hsingle hunread
      · exact .undeclared hsingle hread hfaulty
  · intro h
    cases h with
    | extension carries => simp [descriptor?, carries]
    | repeated more =>
      exact mapError_eq_error_iff.mpr
        ⟨_, TypeHead.descriptor?_eq_error_iff.mpr (.inl ⟨more, rfl⟩), rfl⟩
    | unreadable single unread =>
      exact mapError_eq_error_iff.mpr
        ⟨_, TypeHead.descriptor?_eq_error_iff.mpr (.inr ⟨_, single, .inl unread⟩), rfl⟩
    | undeclared single read faulty =>
      exact mapError_eq_error_iff.mpr
        ⟨_, TypeHead.descriptor?_eq_error_iff.mpr (.inr ⟨_, single, .inr ⟨_, read, faulty⟩⟩), rfl⟩

theorem Definition.not_exists_offends_iff {definition : Definition} :
    (¬∃ error, definition.Offends name error) ↔
      ∃ result, definition.descriptor? name = .ok result := by
  simp only [← Definition.descriptor?_eq_error_iff]
  cases definition.descriptor? name with
  | error error => simp
  | ok result => simp

/-- The error of a definition has the name and the line of its own type. -/
theorem Definition.Offends.blames {definition : Definition} {error : SchemaError}
    (h : definition.Offends name error) :
    ∃ head mistake, definition.head? = some head ∧
      error = .authoring head.position.line ⟨head.name, mistake⟩ := by
  cases h with
  | extension carries => exact ⟨_, _, rfl, rfl⟩
  | repeated more => exact ⟨_, _, rfl, rfl⟩
  | unreadable single unread =>
    obtain ⟨mistake, -, rfl⟩ := mapError_eq_error_iff.mp unread
    exact ⟨_, mistake, rfl, rfl⟩
  | undeclared single read faulty =>
    obtain ⟨mistake, -, rfl⟩ := mapError_eq_error_iff.mp faulty
    rw [Declaration.eq_given read]
    exact ⟨_, mistake, rfl, rfl⟩

/-! ### A document -/

theorem extractAfter_of_none {definition : Definition} {others : Document} {seen : List String}
    (h : definition.descriptor? name = .ok none) :
    extractAfter name seen (definition :: others) = extractAfter name seen others := by
  rw [extractAfter, h, Traced.bind_ofExcept_ok]

/-- Extraction fails with the error of the first definition that offends. -/
theorem extractAfter_eq_error_iff {document : Document} {seen : List String}
    {error : SchemaError} :
    (extractAfter name seen document).result = .error error ↔
      ∃ before definition after, document = before ++ definition :: after ∧
        (∀ earlier ∈ before, ¬∃ error, earlier.Offends name error) ∧
        definition.Offends name error := by
  induction document generalizing seen with
  | nil =>
    have hnil : (extractAfter name seen []).result = .ok [] := rfl
    simp [hnil]
  | cons definition others ih =>
    rw [exists_first_cons_iff, result_extractAfter_cons, bind_eq_error_iff,
      Definition.descriptor?_eq_error_iff]
    refine or_congr_right ?_
    rw [Definition.not_exists_offends_iff]
    constructor
    · rintro ⟨result, hresult, hrest⟩
      refine ⟨⟨result, hresult⟩, ?_⟩
      cases result with
      | none => exact ih.mp hrest
      | some d =>
        rcases bind_eq_error_iff.mp hrest with hrest | ⟨_, -, hok⟩
        · exact ih.mp hrest
        · contradiction
    · rintro ⟨⟨result, hresult⟩, hrest⟩
      refine ⟨result, hresult, ?_⟩
      cases result with
      | none => exact ih.mpr hrest
      | some d => exact bind_eq_error_iff.mpr (.inl (ih.mpr hrest))

/-! ### What carries no such directive -/

theorem TypeHead.declarations_filter (head : TypeHead) :
    TypeHead.declarations { head with directives := head.declarations name } name =
      head.declarations name := by
  simp only [declarations, List.filter_filter, Bool.and_self]

/-- What a head declares depends on its name and on its directives of one name. -/
theorem TypeHead.descriptor?_filter (head : TypeHead) :
    TypeHead.descriptor? { head with directives := head.declarations name } name =
      head.descriptor? name := by
  rw [descriptor?, descriptor?, declarations_filter]

theorem Definition.descriptor?_of_pared?_eq_none {definition : Definition}
    (h : definition.pared? name = none) : definition.descriptor? name = .ok none := by
  cases definition with
  | schema => rfl
  | directive word => rfl
  | type head =>
    by_cases hnone : head.declarations name = []
    · simp [descriptor?, TypeHead.descriptor?, hnone, mapError_ok]
    · simp [pared?, hnone] at h
  | extension head =>
    by_cases hnone : head.declarations name = []
    · simp [descriptor?, hnone]
    · simp [pared?, hnone] at h

theorem Definition.descriptor?_of_pared?_eq_some {definition pared : Definition}
    (h : definition.pared? name = some pared) :
    pared.descriptor? name = definition.descriptor? name := by
  cases definition with
  | schema => contradiction
  | directive word => contradiction
  | type head =>
    by_cases hnone : head.declarations name = []
    · simp [pared?, hnone] at h
    · rw [pared?, if_neg hnone] at h
      obtain rfl := Option.some.inj h
      rw [descriptor?, descriptor?, TypeHead.descriptor?_filter]
  | extension head =>
    by_cases hnone : head.declarations name = []
    · simp [pared?, hnone] at h
    · rw [pared?, if_neg hnone] at h
      obtain rfl := Option.some.inj h
      rw [descriptor?, descriptor?, TypeHead.declarations_filter]

theorem extractAfter_pared (document : Document) (seen : List String) :
    extractAfter name seen (document.pared name) = extractAfter name seen document := by
  induction document generalizing seen with
  | nil => rfl
  | cons definition others ih =>
    rw [Document.pared, List.filterMap_cons]
    cases hpared : definition.pared? name with
    | none =>
      rw [extractAfter_of_none (Definition.descriptor?_of_pared?_eq_none hpared)]
      exact ih seen
    | some pared =>
      rw [extractAfter, extractAfter, Definition.descriptor?_of_pared?_eq_some hpared]
      congr 1
      funext result
      cases result with
      | none => exact ih seen
      | some d =>
        simp only [← ih]
        rfl

/-! ### All or nothing -/

theorem Document.mem_annotated_iff {document : Document} {head : TypeHead} :
    head ∈ document.annotated name ↔
      Definition.type head ∈ document ∧ head.declarations name ≠ [] := by
  rw [annotated, List.mem_filterMap]
  constructor
  · rintro ⟨definition, hmem, hhead⟩
    cases definition with
    | type other =>
      by_cases hnone : other.declarations name = []
      · simp [Definition.annotated?, hnone] at hhead
      · rw [Definition.annotated?, if_neg hnone] at hhead
        obtain rfl := Option.some.inj hhead
        exact ⟨hmem, hnone⟩
    | schema | directive _ | extension _ => contradiction
  · rintro ⟨hmem, hcarries⟩
    exact ⟨.type head, hmem, by rw [Definition.annotated?, if_neg hcarries]⟩

theorem TypeHead.exists_declares_iff {head : TypeHead} :
    (head.declarations name ≠ [] → ∃ d, head.Declares name d) ↔
      (head.declarations name).length ≤ 1 ∧ ∀ directive ∈ head.declarations name,
        ∃ declaration d, Declaration.ofArguments head.name directive.arguments = .ok declaration ∧
          declaration.descriptor = .ok d := by
  unfold Declares
  match head.declarations name with
  | [] => simp
  | [directive] =>
    simp only [ne_eq, List.cons_ne_nil, not_false_eq_true, forall_const, List.length_singleton,
      Nat.le_refl, true_and, List.forall_mem_singleton, List.cons.injEq, and_true]
    constructor
    · rintro ⟨d, _, declaration, rfl, hread, hd⟩
      exact ⟨declaration, d, hread, hd⟩
    · rintro ⟨declaration, d, hread, hd⟩
      exact ⟨d, directive, declaration, rfl, hread, hd⟩
  | _ :: _ :: _ => simp

/-- A document is extracted exactly when no addition to a type carries the directive, no type
repeats it, and all arguments given with it declare a collection. -/
theorem Document.exists_extract_iff {document : Document} :
    (∃ ds, (document.extract name).result = .ok ds) ↔
      (∀ head, Definition.extension head ∈ document → head.declarations name = []) ∧
      (∀ head, Definition.type head ∈ document → (head.declarations name).length ≤ 1) ∧
      (∀ head, Definition.type head ∈ document → ∀ directive ∈ head.declarations name,
        ∃ declaration d, Declaration.ofArguments head.name directive.arguments = .ok declaration ∧
          declaration.descriptor = .ok d) := by
  have hextends : (∀ definition ∈ document, ¬definition.Extends name) ↔
      ∀ head, Definition.extension head ∈ document → head.declarations name = [] := by
    constructor
    · intro h head hmem
      exact not_not.mp (h _ hmem)
    · rintro h (_ | _ | _ | head) hmem hcarries
      · exact hcarries
      · exact hcarries
      · exact hcarries
      · exact hcarries (h head hmem)
  have htypes : (∃ ds, List.Forall₂ (fun head d => head.Declares name d)
        (document.annotated name) ds) ↔
      ∀ head, Definition.type head ∈ document →
        head.declarations name ≠ [] → ∃ d, head.Declares name d := by
    simp only [exists_forall₂_iff, mem_annotated_iff, and_imp]
  simp only [extract_eq_ok_iff, exists_and_left, hextends, htypes, TypeHead.exists_declares_iff,
    forall_and]

/-- Extraction gives either a collection for each type that carries the directive, or the error of
the first definition that offends; nothing else in the document matters. -/
theorem Document.extract_verdict (document : Document) (name : String) :
    ((∃ ds, (document.extract name).result = .ok ds) ↔
      (∀ head, Definition.extension head ∈ document → head.declarations name = []) ∧
      (∀ head, Definition.type head ∈ document → (head.declarations name).length ≤ 1) ∧
      (∀ head, Definition.type head ∈ document → ∀ directive ∈ head.declarations name,
        ∃ declaration d, Declaration.ofArguments head.name directive.arguments = .ok declaration ∧
          declaration.descriptor = .ok d)) ∧
    (∀ ds, (document.extract name).result = .ok ds →
      List.Forall₂ (fun head d => d.typeName = head.name ∧ ∃ directive declaration,
        head.declarations name = [directive] ∧
        Declaration.ofArguments head.name directive.arguments = .ok declaration ∧
        declaration.descriptor = .ok d) (document.annotated name) ds) ∧
    (∀ error, (document.extract name).result = .error error ↔
      ∃ before definition after, document = before ++ definition :: after ∧
        (∀ earlier ∈ before, ¬∃ error, earlier.Offends name error) ∧
        definition.Offends name error) ∧
    (∀ definition ∈ document, ∀ error, definition.Offends name error →
      ∃ head mistake, definition.head? = some head ∧
        error = .authoring head.position.line ⟨head.name, mistake⟩) ∧
    (document.pared name).extract name = document.extract name := by
  refine ⟨exists_extract_iff, fun ds h => ?_, fun error => extractAfter_eq_error_iff,
    fun definition _ error h => h.blames, extractAfter_pared document []⟩
  exact (extract_eq_ok_iff.mp h).2.imp fun head d hd => ⟨TypeHead.Declares.typeName_eq hd, hd⟩

example : (Document.extract [.extension ⟨.object, "Post", ⟨2, 8⟩, [⟨"key", []⟩]⟩,
    .extension ⟨.object, "Post", ⟨4, 8⟩, [⟨"key", []⟩, ⟨"collection", []⟩]⟩,
    .type ⟨.object, "Tag", ⟨6, 1⟩, [⟨"collection", []⟩, ⟨"collection", []⟩]⟩] "collection").result =
      .error (.authoring 4 ⟨"Post", .directiveOnExtension⟩) := by rfl

end SchemaPolicy.Sdl
