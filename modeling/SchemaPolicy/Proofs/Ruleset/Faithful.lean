import SchemaPolicy.Proofs.Collection.Faithful
import SchemaPolicy.Proofs.Ruleset.Section
import Mathlib.Data.List.Forall2

/-! A rules document determines the rules of the collections in it: the generated section splits
into its blocks, and every block tells its rule. -/

namespace SchemaPolicy.Ruleset

open Text

theorem forall₂_of_map_eq {α β : Type} {f : α → β} {R : α → α → Prop} {as bs : List α}
    (h : ∀ a ∈ as, ∀ b ∈ bs, f a = f b → R a b) (heq : as.map f = bs.map f) :
    List.Forall₂ R as bs := by
  induction as generalizing bs with
  | nil =>
    obtain rfl := List.map_eq_nil_iff.mp heq.symm
    exact .nil
  | cons a as ih =>
    obtain ⟨b, bs, rfl, hb, htail⟩ := List.map_eq_cons_iff.mp heq.symm
    refine .cons (h a List.mem_cons_self b List.mem_cons_self hb.symm) (ih ?_ htail.symm)
    exact fun a ha b hb => h a (List.mem_cons_of_mem _ ha) b (List.mem_cons_of_mem _ hb)

variable {collections others : List Collection}

theorem rules_eq_of_generated_eq (h : ∀ collection ∈ collections, collection.WellFormed)
    (h' : ∀ collection ∈ others, collection.WellFormed)
    (heq : generated collections = generated others) :
    collections.map Collection.rule = others.map Collection.rule := by
  have hblocks : (collections.map fun collection => lines collection.block) =
      others.map fun collection => lines collection.block := by
    rw [← paragraphs_generated h, ← paragraphs_generated h', heq]
  have hrules : List.Forall₂ (fun collection other => collection.rule = other.rule)
      collections others := by
    refine forall₂_of_map_eq (fun collection hmem other hother hlines => ?_) hblocks
    rw [Collection.lines_block (h _ hmem), Collection.lines_block (h' _ hother)] at hlines
    exact Collection.rule_eq_of_blockLines_eq (h _ hmem) (h' _ hother)
      (List.map_injective_iff.mpr (fun _ _ => String.toList_inj.mp) hlines)
  rw [← List.forall₂_eq_eq_eq, List.forall₂_map_left_iff, List.forall₂_map_right_iff]
  exact hrules

variable {envelope : Envelope} {extraRules : List Rule} {ds ds' : List Descriptor}

theorem wellFormed_of_declared
    (h : ∀ d ∈ ds, ∃ declaration : Declaration, declaration.descriptor = .ok d) :
    ∀ collection ∈ ds.map Descriptor.toCollection, collection.WellFormed := by
  intro collection hmem
  obtain ⟨d, hd, rfl⟩ := List.mem_map.mp hmem
  obtain ⟨declaration, hdeclaration⟩ := h d hd
  exact Declaration.wellFormed hdeclaration

/-- Declared collections whose documents are the same have the same rules; they differ at most in
their types and in permissions that no condition asks for. -/
theorem rules_eq_of_render_eq
    (h : ∀ d ∈ ds, ∃ declaration : Declaration, declaration.descriptor = .ok d)
    (h' : ∀ d ∈ ds', ∃ declaration : Declaration, declaration.descriptor = .ok d)
    (heq : render envelope (ds.map Descriptor.toCollection) extraRules =
      render envelope (ds'.map Descriptor.toCollection) extraRules) :
    (ds.map Descriptor.toCollection).map Collection.rule =
        (ds'.map Descriptor.toCollection).map Collection.rule ∧
      List.Forall₂ (fun d d' => d.name = d'.name ∧ d.protection.Agrees d'.protection) ds ds' := by
  have hrules := rules_eq_of_generated_eq (wellFormed_of_declared h) (wellFormed_of_declared h')
    (generated_eq_of_render_eq heq)
  refine ⟨hrules, ?_⟩
  have hsegment : ∀ {ds : List Descriptor}, (∀ d ∈ ds, ∃ declaration : Declaration,
      declaration.descriptor = .ok d) → ∀ d ∈ ds, PathSegment d.name := by
    intro ds hds d hd
    exact (wellFormed_of_declared hds _ (List.mem_map_of_mem hd)).name_segment
  rw [List.map_map, List.map_map] at hrules
  refine forall₂_of_map_eq (fun d hd d' hd' hrule => ?_) hrules
  exact (Collection.rule_eq_iff (hsegment h d hd) (hsegment h' d' hd')).mp hrule

/-- The permission of an operation that is open to all leaves no trace in the document. -/
theorem rules_eq_of_render_eq_publicRead :
    ∃ d d' : Descriptor, d.protection ≠ d'.protection ∧
      (∃ declaration : Declaration, declaration.descriptor = .ok d) ∧
      (∃ declaration : Declaration, declaration.descriptor = .ok d') ∧
      render {} [d.toCollection] [] = render {} [d'.toCollection] [] ∧
      [d.rule] = [d'.rule] ∧
      List.Forall₂ (fun d d' => d.name = d'.name ∧ d.protection.Agrees d'.protection) [d] [d'] := by
  let declaration (read : String) : Declaration :=
    { typeName := "Note", name? := some "notes", pattern? := some "INDEXED_BY_TENANT",
      permissions := ⟨some read, some "w", some "u", some "d"⟩,
      switches := ⟨some true, none, none⟩ }
  let d (read : String) : Descriptor :=
    { typeName := "Note", name := "notes",
      protection := .indexedByTenant ⟨read, "w", "u", "d"⟩ ⟨true, true, true⟩ }
  have hdeclared : ∀ read ∈ ["r", "s"], ∀ d' ∈ [d read],
      ∃ declaration : Declaration, declaration.descriptor = .ok d' := by
    intro read hread d' hd'
    obtain rfl := List.mem_singleton.mp hd'
    refine ⟨declaration read, ?_⟩
    simp only [List.mem_cons, List.not_mem_nil, or_false] at hread
    rcases hread with rfl | rfl <;> rfl
  have hrule : (d "r").rule = (d "s").rule := rfl
  have hrender : render {} [(d "r").toCollection] [] = render {} [(d "s").toCollection] [] := by
    simp only [render, List.map_cons, List.map_nil, hrule]
  obtain ⟨hrules, hagree⟩ := rules_eq_of_render_eq (hdeclared "r" (by simp))
    (hdeclared "s" (by simp)) hrender
  exact ⟨d "r", d "s", by decide, hdeclared "r" (by simp) _ List.mem_cons_self,
    hdeclared "s" (by simp) _ List.mem_cons_self, hrender, hrules, hagree⟩

end SchemaPolicy.Ruleset
