import SchemaPolicy.Extraction
import SchemaPolicy.Proofs.Declaration.Arguments
import SchemaPolicy.Proofs.Declaration.Descriptor
import SchemaPolicy.Proofs.Traced
import Mathlib.Data.List.Forall2

/-! What extraction gives: one descriptor for every type that carries the directive, in the order
of the document, made of the arguments of this one directive. -/

namespace SchemaPolicy.Sdl

open Outcome

/-- A type carries one directive of some name, and its arguments declare a collection. -/
def TypeHead.Declares (head : TypeHead) (name : String) (d : Descriptor) : Prop :=
  ∃ directive declaration, head.declarations name = [directive] ∧
    Declaration.ofArguments head.name directive.arguments = .ok declaration ∧
    declaration.descriptor = .ok d

/-- The type that a definition defines, if it carries a directive of some name. -/
def Definition.annotated? (name : String) : Definition → Option TypeHead
  | .type head => if head.declarations name = [] then none else some head
  | _ => none

/-- The types that carry a directive of some name, in order. -/
def Document.annotated (document : Document) (name : String) : List TypeHead :=
  document.filterMap (Definition.annotated? name)

/-- An addition to a type that carries a directive of some name. -/
def Definition.Extends (name : String) : Definition → Prop
  | .extension head => head.declarations name ≠ []
  | _ => False

variable {name : String}

theorem TypeHead.Declares.typeName_eq {head : TypeHead} {d : Descriptor}
    (h : head.Declares name d) : d.typeName = head.name := by
  obtain ⟨_, declaration, -, hread, hd⟩ := h
  rw [(Declaration.descriptor_eq_ok_iff.mp hd).1, Declaration.eq_given hread]
  rfl

theorem TypeHead.descriptor?_eq_ok_iff {head : TypeHead} {result : Option Descriptor} :
    head.descriptor? name = .ok result ↔
      head.declarations name = [] ∧ result = none ∨
        ∃ d, result = some d ∧ head.Declares name d := by
  unfold descriptor? Declares
  cases hdirectives : head.declarations name with
  | nil => simp [eq_comm]
  | cons directive others =>
    cases others with
    | nil =>
      simp only [bind_eq_ok_iff, pure_eq_ok_iff]
      constructor
      · rintro ⟨declaration, hread, d, hd, rfl⟩
        exact .inr ⟨d, rfl, directive, declaration, rfl, hread, hd⟩
      · rintro (⟨h, -⟩ | ⟨d, rfl, _, declaration, hone, hread, hd⟩)
        · contradiction
        · obtain ⟨rfl, -⟩ := List.cons.inj hone
          exact ⟨declaration, hread, d, hd, rfl⟩
    | cons _ _ => simp

/-- A definition declares a collection exactly when it defines a type that carries the directive;
an addition to a type may not carry it. -/
theorem Definition.descriptor?_eq_ok_iff {definition : Definition} {result : Option Descriptor} :
    definition.descriptor? name = .ok result ↔
      ¬definition.Extends name ∧
        match definition.annotated? name with
        | none => result = none
        | some head => ∃ d, result = some d ∧ head.Declares name d := by
  cases definition with
  | schema => simp [descriptor?, Extends, annotated?, eq_comm]
  | directive word => simp [descriptor?, Extends, annotated?, eq_comm]
  | extension head =>
    unfold descriptor? Extends annotated?
    by_cases hnone : head.declarations name = []
    · simp [hnone, eq_comm]
    · simp [hnone]
  | type head =>
    simp only [descriptor?, mapError_eq_ok_iff, TypeHead.descriptor?_eq_ok_iff, Extends, annotated?,
      not_false_eq_true, true_and]
    by_cases hnone : head.declarations name = []
    · simp [hnone, TypeHead.Declares]
    · simp [hnone]

/-- The names that were seen before have no part in the result. -/
theorem result_extractAfter_cons (definition : Definition) (others : Document)
    (seen : List String) :
    (extractAfter name seen (definition :: others)).result =
      definition.descriptor? name >>= fun
        | none => (extractAfter name seen others).result
        | some d => (extractAfter name (d.name :: seen) others).result >>= fun rest =>
          .ok (d :: rest) := by
  rw [extractAfter, Traced.result_bind, Traced.result_ofExcept]
  congr 1
  funext result
  cases result with
  | none => rfl
  | some d =>
    by_cases hseen : d.name ∈ seen
    · simp only [hseen, if_true, Traced.result_bind]
      rfl
    · simp only [hseen, if_false, Traced.result_bind]
      rfl

/-- A document is extracted exactly when no addition to a type carries the directive and every type
that carries it declares a collection. -/
theorem extractAfter_eq_ok_iff {document : Document} {seen : List String} {ds : List Descriptor} :
    (extractAfter name seen document).result = .ok ds ↔
      (∀ definition ∈ document, ¬definition.Extends name) ∧
        List.Forall₂ (fun head d => head.Declares name d) (document.annotated name) ds := by
  induction document generalizing seen ds with
  | nil =>
    have hnil : (extractAfter name seen []).result = .ok [] := rfl
    simp [hnil, Document.annotated, eq_comm]
  | cons definition others ih =>
    rw [result_extractAfter_cons, bind_eq_ok_iff, List.forall_mem_cons, Document.annotated,
      List.filterMap_cons]
    simp only [Definition.descriptor?_eq_ok_iff]
    cases hhead : definition.annotated? name with
    | none =>
      constructor
      · rintro ⟨_, ⟨hextends, rfl⟩, hrest⟩
        obtain ⟨hothers, hall⟩ := ih.mp hrest
        exact ⟨⟨hextends, hothers⟩, hall⟩
      · rintro ⟨⟨hextends, hothers⟩, hall⟩
        exact ⟨none, ⟨hextends, rfl⟩, ih.mpr ⟨hothers, hall⟩⟩
    | some head =>
      constructor
      · rintro ⟨_, ⟨hextends, d, rfl, hd⟩, hrest⟩
        simp only [bind_eq_ok_iff] at hrest
        obtain ⟨rest, hrest, heq⟩ := hrest
        obtain rfl := Except.ok.inj heq
        obtain ⟨hothers, hall⟩ := ih.mp hrest
        exact ⟨⟨hextends, hothers⟩, .cons hd hall⟩
      · rintro ⟨⟨hextends, hothers⟩, hall⟩
        obtain ⟨d, rest, hd, hrest, rfl⟩ := List.forall₂_cons_left_iff.mp hall
        exact ⟨some d, ⟨hextends, d, rfl, hd⟩,
          bind_eq_ok_iff.mpr ⟨rest, ih.mpr ⟨hothers, hrest⟩, rfl⟩⟩

theorem Document.extract_eq_ok_iff {document : Document} {ds : List Descriptor} :
    (document.extract name).result = .ok ds ↔
      (∀ definition ∈ document, ¬definition.Extends name) ∧
        List.Forall₂ (fun head d => head.Declares name d) (document.annotated name) ds :=
  extractAfter_eq_ok_iff

end SchemaPolicy.Sdl
