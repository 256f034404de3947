import Mathlib.Data.List.Induction
import Mathlib.Data.List.Infix

/-! Texts cut at marks. A text that has a mark in front of each of its parts is read back part by
part, as long as no part holds the mark of the part behind it. -/

namespace SchemaPolicy.Text

/-- What stands in front of the first place where a mark is, and what stands behind it. -/
def cut? (mark : List Char) : List Char → Option (List Char × List Char)
  | [] => none
  | c :: rest =>
    if mark <+: c :: rest then some ([], (c :: rest).drop mark.length)
    else (cut? mark rest).map fun parts => (c :: parts.1, parts.2)

/-- A mark that cannot begin inside itself, since its first character does not come again. -/
def IsMark : List Char → Prop
  | [] => False
  | c :: rest => c ∉ rest

instance : DecidablePred IsMark
  | [] => isFalse not_false
  | c :: rest => inferInstanceAs (Decidable (c ∉ rest))

variable {mark s : List Char}

theorem IsMark.ne_nil (h : IsMark mark) : mark ≠ [] := by
  rintro rfl
  exact h

/-- A mark does not begin in what stands in front of it, nor in a part of itself. -/
theorem IsMark.not_prefix (h : IsMark mark) {c : Char} (hs : ¬mark <:+: c :: s) (rest : List Char) :
    ¬mark <+: c :: (s ++ mark ++ rest) := by
  intro hmark
  rw [List.append_assoc, ← List.cons_append] at hmark
  rcases List.prefix_or_prefix_of_prefix hmark (List.prefix_append (c :: s) (mark ++ rest)) with
    hinside | ⟨excess, rfl⟩
  · exact hs hinside.isInfix
  · cases excess with
    | nil => exact hs (by rw [List.append_nil])
    | cons d excess =>
      rw [List.prefix_append_right_inj] at hmark
      obtain ⟨rfl, -⟩ := List.cons_prefix_cons.mp hmark
      exact h (List.mem_append_right s List.mem_cons_self)

theorem cut?_append (h : IsMark mark) (hs : ¬mark <:+: s) (rest : List Char) :
    cut? mark (s ++ mark ++ rest) = some (s, rest) := by
  induction s with
  | nil =>
    obtain ⟨c, tail, rfl⟩ := List.exists_cons_of_ne_nil h.ne_nil
    have hprefix : c :: tail <+: c :: (tail ++ rest) := List.prefix_append (c :: tail) rest
    rw [List.nil_append, List.cons_append, cut?, if_pos hprefix]
    simp
  | cons c s ih =>
    have hrest : ¬mark <:+: s := fun hinside => hs (List.infix_cons hinside)
    rw [List.cons_append, List.cons_append, cut?, if_neg (h.not_prefix hs rest), ih hrest]
    rfl

/-- Cuts a text at some marks, one after another. -/
def texts? : List (List Char) → List Char → Option (List (List Char))
  | [], s => some [s]
  | mark :: marks, s => do
    let (text, rest) ← cut? mark s
    return text :: (← texts? marks rest)

/-- Texts with marks in front of them are read back, unless one holds the mark of the next. -/
theorem texts?_append {columns : List (String × String)} {first : List Char}
    (hmarks : ∀ column ∈ columns, IsMark column.1.toList)
    (hapart : ∀ pair ∈ (columns.map (·.1.toList)).zip (first :: columns.map (·.2.toList)),
      ¬pair.1 <:+: pair.2) :
    texts? (columns.map (·.1.toList))
        (first ++ columns.flatMap fun column => column.1.toList ++ column.2.toList) =
      some (first :: columns.map (·.2.toList)) := by
  induction columns generalizing first with
  | nil => simp [texts?]
  | cons column columns ih =>
    obtain ⟨hmark, hmarks⟩ := List.forall_mem_cons.mp hmarks
    rw [List.map_cons, List.zip_cons_cons, List.forall_mem_cons] at hapart
    obtain ⟨hfirst, hapart⟩ := hapart
    have hcut := cut?_append hmark hfirst
      (column.2.toList ++ columns.flatMap fun column => column.1.toList ++ column.2.toList)
    rw [List.flatMap_cons, List.append_assoc, ← List.append_assoc, List.map_cons, texts?, hcut]
    simp only [Option.bind_eq_bind, Option.bind_some, ih hmarks hapart]
    rfl

/-- A mark that does not end in a space is not in the spaces behind a text. -/
theorem infix_of_infix_append_replicate (hlast : mark.getLast? ≠ some ' ') {n : Nat}
    (h : mark <:+: s ++ List.replicate n ' ') : mark <:+: s := by
  induction n with
  | zero => simpa using h
  | succ n ih =>
    rw [List.replicate_succ', ← List.append_assoc, List.infix_concat_iff] at h
    rcases h with ⟨before, hbefore⟩ | h
    · cases mark using List.reverseRecOn with
      | nil => exact List.nil_infix
      | append_singleton front last =>
        rw [← List.append_assoc] at hbefore
        obtain ⟨-, hspace⟩ := List.append_inj' hbefore rfl
        rw [List.getLast?_concat, List.singleton_inj.mp hspace] at hlast
        exact absurd rfl hlast
    · exact ih h

end SchemaPolicy.Text
