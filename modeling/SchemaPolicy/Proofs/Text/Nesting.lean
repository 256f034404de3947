/-! How deep braces are nested after a text. -/

namespace SchemaPolicy.Text

/-- The depth after a text that begins at some depth; there is none once a brace closes that none
has opened. -/
def depthAfter? : Nat → List Char → Option Nat
  | depth, [] => some depth
  | depth, '\x7b' :: rest => depthAfter? (depth + 1) rest
  | 0, '\x7d' :: _ => none
  | depth + 1, '\x7d' :: rest => depthAfter? depth rest
  | depth, _ :: rest => depthAfter? depth rest

theorem depthAfter?_append (depth : Nat) (s t : List Char) :
    depthAfter? depth (s ++ t) = (depthAfter? depth s).bind fun d => depthAfter? d t := by
  induction s generalizing depth with
  | nil => rfl
  | cons c s ih =>
    rw [List.cons_append]
    by_cases hopen : c = '\x7b'
    · subst hopen
      exact ih (depth + 1)
    · by_cases hclose : c = '\x7d'
      · subst hclose
        cases depth with
        | zero => rfl
        | succ depth => exact ih depth
      · rw [depthAfter?, depthAfter?, ih]
        all_goals grind

theorem depthAfter?_of_forall {s : List Char} (h : ∀ c ∈ s, c ≠ '\x7b' ∧ c ≠ '\x7d')
    (depth : Nat) : depthAfter? depth s = some depth := by
  induction s with
  | nil => rfl
  | cons c s ih =>
    obtain ⟨hc, hs⟩ := List.forall_mem_cons.mp h
    rw [depthAfter?, ih hs]
    · exact hc.1
    · exact fun _ => hc.2
    · exact fun _ _ => hc.2

/-- Pieces that each lead back to the depth at their start do so together. -/
theorem depthAfter?_flatMap {α : Type} {f : α → List Char} {pieces : List α} {depth : Nat}
    (h : ∀ piece ∈ pieces, depthAfter? depth (f piece) = some depth) :
    depthAfter? depth (pieces.flatMap f) = some depth := by
  induction pieces with
  | nil => rfl
  | cons piece pieces ih =>
    obtain ⟨hpiece, hpieces⟩ := List.forall_mem_cons.mp h
    rw [List.flatMap_cons, depthAfter?_append, hpiece]
    exact ih hpieces

end SchemaPolicy.Text
