import SchemaPolicy.FileTree.Access

/-! The pieces of a path. What is joined to a path stands in pieces of its own at the end, and
whether the path is absolute does not depend on a name joined to it. -/

namespace SchemaPolicy.Path

/-! ### Pieces -/

theorem pieces_ne_nil (cs : List Char) : pieces cs ≠ [] := by
  fun_cases pieces cs <;> simp

/-- A slash keeps the pieces on its two sides apart. -/
theorem pieces_append_slash (cs rest : List Char) :
    pieces (cs ++ '/' :: rest) = pieces cs ++ pieces rest := by
  fun_induction pieces cs with
  | case1 => rfl
  | case2 cs ih => rw [List.cons_append, pieces, ih, List.cons_append]
  | case3 c cs _ hpieces => exact absurd hpieces (pieces_ne_nil cs)
  | case4 c cs hslash piece others hpieces ih =>
    rw [List.cons_append, pieces.eq_3 _ _ hslash, ih, hpieces]
    rfl

theorem pieces_of_notMem {cs : List Char} (h : '/' ∉ cs) : pieces cs = [cs] := by
  induction cs with
  | nil => rfl
  | cons c cs ih =>
    rw [List.mem_cons, not_or] at h
    rw [pieces.eq_3 _ _ (Ne.symm h.1), ih h.2]

/-- Only a slash at the end, or no text at all, makes the last piece empty. -/
theorem getLast?_pieces_ne {cs : List Char} (hcs : cs ≠ []) (hslash : cs.getLast? ≠ some '/') :
    (pieces cs).getLast? ≠ some [] := by
  fun_induction pieces cs with
  | case1 => exact absurd rfl hcs
  | case2 rest ih =>
    have hrest : rest ≠ [] := by
      rintro rfl
      exact hslash rfl
    obtain ⟨c, rest, rfl⟩ := List.exists_cons_of_ne_nil hrest
    rw [List.getLast?_cons_cons] at hslash
    obtain ⟨piece, others, hpieces⟩ := List.exists_cons_of_ne_nil (pieces_ne_nil (c :: rest))
    rw [hpieces, List.getLast?_cons_cons, ← hpieces]
    exact ih (List.cons_ne_nil c rest) hslash
  | case3 c rest _ hpieces => exact absurd hpieces (pieces_ne_nil rest)
  | case4 c rest _ piece others hpieces ih =>
    cases rest with
    | nil =>
      obtain ⟨rfl, rfl⟩ := List.cons.inj hpieces
      simp
    | cons d rest =>
      rw [List.getLast?_cons_cons] at hslash
      have hlast := ih (List.cons_ne_nil d rest) hslash
      rw [hpieces] at hlast
      cases others with
      | nil => simp
      | cons _ _ => rwa [List.getLast?_cons_cons] at hlast ⊢

theorem getLast?_pieces_of_slash {cs : List Char} (h : cs.getLast? = some '/') :
    (pieces cs).getLast? = some [] := by
  obtain ⟨front, rfl⟩ := List.getLast?_eq_some_iff.mp h
  rw [pieces_append_slash]
  exact List.getLast?_concat

/-! ### Joining -/

/-- What stands in front of a path that is joined to that of a directory. -/
def lead (dir : Path) : List Char :=
  match dir.text.toList.getLast? with
  | none | some '/' => dir.text.toList
  | some _ => dir.text.toList ++ ['/']

theorem mem_lead {c : Char} {dir : Path} (hc : c ≠ '/') : c ∈ dir.lead ↔ c ∈ dir.text.toList := by
  unfold lead
  split
  · exact Iff.rfl
  · exact Iff.rfl
  · simp [hc]

theorem byteSize_lead_le (dir : Path) :
    Text.byteSize dir.lead ≤ Text.byteSize dir.text.toList + 1 := by
  unfold lead
  split
  · exact Nat.le_succ _
  · exact Nat.le_succ _
  · rw [Text.byteSize_append]
    exact Nat.le_refl _

theorem lead_eq (dir : Path) : dir.lead = [] ∨ ∃ front, dir.lead = front ++ ['/'] := by
  unfold lead
  split
  · next h => exact .inl (List.getLast?_eq_none_iff.mp h)
  · next h => exact .inr (List.getLast?_eq_some_iff.mp h)
  · exact .inr ⟨_, rfl⟩

variable {dir other name : Path}

/-- A slash behind the path of a directory makes an empty piece, unless there is one already. -/
theorem pieces_lead (h : dir.text.toList ≠ []) :
    pieces dir.text.toList = (pieces dir.lead).dropLast ∨
      pieces dir.text.toList = (pieces dir.lead).dropLast ++ [[]] := by
  unfold lead
  split
  · next hempty => exact absurd (List.getLast?_eq_none_iff.mp hempty) h
  · next hslash =>
    obtain ⟨front, hfront⟩ := List.getLast?_eq_some_iff.mp hslash
    right
    rw [hfront, pieces_append_slash, pieces, List.dropLast_concat]
  · left
    rw [pieces_append_slash, pieces, List.dropLast_concat]

theorem join_of_isAbsolute (h : other.isAbsolute = true) : dir.join other = other := if_pos h

theorem toList_join (h : other.isAbsolute = false) :
    (dir.join other).text.toList = dir.lead ++ other.text.toList := by
  rw [join, if_neg (by rw [h]; exact Bool.false_ne_true), lead]
  split <;> simp_all

/-- Joining loses nothing. -/
theorem byteSize_le_join (dir : Path) (h : other.isAbsolute = false) :
    Text.byteSize dir.text.toList + Text.byteSize other.text.toList ≤
      Text.byteSize (dir.join other).text.toList := by
  rw [toList_join h, Text.byteSize_append, lead]
  split
  · exact Nat.le_refl _
  · exact Nat.le_refl _
  · rw [Text.byteSize_append]
    omega

theorem join_of_empty (hdir : dir.text.toList = []) : dir.join other = other := by
  cases h : other.isAbsolute with
  | true => exact join_of_isAbsolute h
  | false =>
    have htext : (dir.join other).text.toList = other.text.toList := by
      rw [toList_join h, lead, hdir]
      rfl
    exact congrArg Path.mk (String.toList_inj.mp htext)

/-- What is joined to a path stands in pieces of its own. -/
theorem pieces_join (h : other.isAbsolute = false) :
    pieces (dir.join other).text.toList =
      (pieces dir.lead).dropLast ++ pieces other.text.toList := by
  rw [toList_join h]
  rcases dir.lead_eq with hlead | ⟨front, hlead⟩
  · rw [hlead]
    rfl
  · rw [hlead, List.append_assoc, List.singleton_append, pieces_append_slash, pieces_append_slash]
    exact congrArg (· ++ _) (List.dropLast_concat).symm

/-! ### Names in a directory -/

/-- A path that is nothing but a name in the directory where it starts. -/
structure IsName (path : Path) : Prop where
  slash : '/' ∉ path.text.toList
  nul : '\x00' ∉ path.text.toList
  idle : ¬isIdle path.text.toList
  up : path.text.toList ≠ ['.', '.']
  size : Text.byteSize path.text.toList ≤ FileTree.nameLimit

theorem IsName.ne_nil (h : name.IsName) : name.text.toList ≠ [] := by
  intro hempty
  exact h.idle (hempty ▸ rfl)

theorem IsName.isAbsolute (h : name.IsName) : name.isAbsolute = false := by
  rw [Path.isAbsolute, beq_eq_false_iff_ne]
  intro hslash
  exact h.slash (List.mem_of_head? hslash)

theorem IsName.toList_join (h : name.IsName) :
    (dir.join name).text.toList = dir.lead ++ name.text.toList :=
  Path.toList_join h.isAbsolute

theorem IsName.join_inj (hname : name.IsName) (hother : other.IsName)
    (h : dir.join name = dir.join other) : name = other := by
  have htext : dir.lead ++ name.text.toList = dir.lead ++ other.text.toList := by
    rw [← hname.toList_join, h, hother.toList_join]
  exact congrArg Path.mk (String.toList_inj.mp (List.append_cancel_left htext))

/-- A name in a directory is the last piece of its path. -/
theorem IsName.pieces_join (h : name.IsName) :
    pieces (dir.join name).text.toList = (pieces dir.lead).dropLast ++ [name.text.toList] := by
  rw [Path.pieces_join h.isAbsolute, pieces_of_notMem h.slash]

theorem IsName.isAbsolute_join (h : name.IsName) :
    (dir.join name).isAbsolute = (dir.lead.head? == some '/') := by
  rw [Path.isAbsolute, h.toList_join]
  cases dir.lead with
  | nil => exact h.isAbsolute
  | cons c rest => rfl

end SchemaPolicy.Path
