import SchemaPolicy.Proofs.Text.Rows
import SchemaPolicy.Proofs.Text.Trim
import Mathlib.Data.List.Induction

/-! The two spellings of a line break. A text without carriage returns has the same lines when each
of its line feeds gets one in front. Indentation drops the line feeds at the end of a text but keeps
a carriage return there; what this return leaves is blank, or goes when the indented text is read by
lines again. -/

namespace SchemaPolicy.Text

/-- A text with a carriage return in front of every line feed. -/
def crlf (s : List Char) : List Char := s.flatMap fun c => if c = '\n' then ['\r', '\n'] else [c]

@[simp] theorem crlf_nil : crlf [] = [] := rfl

@[simp] theorem crlf_newline (s : List Char) : crlf ('\n' :: s) = '\r' :: '\n' :: crlf s := rfl

theorem crlf_cons {c : Char} (hc : c ≠ '\n') (s : List Char) : crlf (c :: s) = c :: crlf s := by
  simp [crlf, hc]

theorem crlf_append (s t : List Char) : crlf (s ++ t) = crlf s ++ crlf t := by
  simp [crlf]

theorem crlf_of_notMem {s : List Char} (h : '\n' ∉ s) : crlf s = s := by
  induction s with
  | nil => rfl
  | cons c s ih =>
    rw [List.mem_cons, not_or] at h
    rw [crlf_cons (Ne.symm h.1), ih h.2]

/-- A text without carriage returns, from its end to its front. -/
inductive Returnless : List Char → Prop
  | nil : Returnless []
  | newline {s : List Char} (rest : Returnless s) : Returnless ('\n' :: s)
  | char {c : Char} {s : List Char} (solid : c ≠ '\n' ∧ c ≠ '\r') (rest : Returnless s) :
    Returnless (c :: s)

theorem returnless_iff {s : List Char} : Returnless s ↔ '\r' ∉ s := by
  constructor
  · intro h
    induction h with
    | nil => exact List.not_mem_nil
    | newline rest ih => simpa using ih
    | char solid rest ih => simpa [Ne.symm solid.2] using ih
  · intro h
    induction s with
    | nil => exact .nil
    | cons c s ih =>
      rw [List.mem_cons, not_or] at h
      by_cases hc : c = '\n'
      · subst hc
        exact .newline (ih h.2)
      · exact .char ⟨hc, Ne.symm h.1⟩ (ih h.2)

variable {s : List Char}

/-! ### Lines and rows -/

theorem lines_crlf (h : Returnless s) : lines (crlf s) = lines s := by
  induction h with
  | nil => rfl
  | newline rest ih => rw [crlf_newline, lines, lines, ih]
  | char solid rest ih => rw [crlf_cons solid.1, lines_cons solid, lines_cons solid, ih]

theorem map_dropReturn_modifyHead {c : Char} (hc : c ≠ '\r') (rs : List (List Char)) :
    (rs.modifyHead (c :: ·)).map dropReturn = (rs.map dropReturn).modifyHead (c :: ·) := by
  cases rs with
  | nil => rfl
  | cons row rs => simp [dropReturn_cons (.inl hc)]

theorem map_dropReturn_rows (h : Returnless s) : (rows s).map dropReturn = rows s := by
  induction h with
  | nil => rfl
  | newline rest ih =>
    rw [rows_newline, List.map_cons, ih]
    rfl
  | char solid rest ih => rw [rows_cons solid.1, map_dropReturn_modifyHead solid.2, ih]

theorem map_dropReturn_rows_crlf (h : Returnless s) : (rows (crlf s)).map dropReturn = rows s := by
  induction h with
  | nil => rfl
  | @newline s rest ih =>
    have hrows : rows ('\r' :: '\n' :: crlf s) = ['\r'] :: rows (crlf s) :=
      rows_append_newline ['\r'] (crlf s)
    rw [crlf_newline, hrows, List.map_cons, ih, rows_newline]
    rfl
  | char solid rest ih =>
    rw [crlf_cons solid.1, rows_cons solid.1, map_dropReturn_modifyHead solid.2, ih,
      rows_cons solid.1]

/-- A carriage return that the last line break leaves behind ends the last line, and a second
reading takes it off. -/
theorem map_dropReturn_lines_crlf_append (h : Returnless s) :
    (lines (crlf s ++ ['\r'])).map dropReturn = rows s := by
  induction h with
  | nil => rfl
  | newline rest ih =>
    rw [crlf_newline, List.cons_append, List.cons_append, lines, List.map_cons, ih, rows_newline]
    rfl
  | @char c s solid rest ih =>
    rw [crlf_cons solid.1, List.cons_append, lines_cons solid, rows_cons solid.1, ← ih]
    cases hlines : lines (crlf s ++ ['\r']) with
    | nil =>
      rw [hlines] at ih
      exact absurd ih.symm (rows_ne_nil s)
    | cons line others => simp [dropReturn_cons (.inl solid.2)]

/-- Without carriage returns the rows of a text are its lines, and an empty one at the end if the
text is empty or ends in a line feed. -/
theorem rows_eq_lines_or (h : Returnless s) : rows s = lines s ∨ rows s = lines s ++ [[]] := by
  induction h with
  | nil => exact .inr rfl
  | newline rest ih =>
    rw [rows_newline, lines]
    rcases ih with hrows | hrows
    · exact .inl (by rw [hrows])
    · exact .inr (by rw [hrows, List.cons_append])
  | @char c s solid rest ih =>
    rw [rows_cons solid.1, lines_cons solid]
    rcases ih with hrows | hrows
    · rw [hrows]
      cases hlines : lines s with
      | nil => exact absurd (hrows.trans hlines) (rows_ne_nil s)
      | cons line others => exact .inl rfl
    · rw [hrows]
      cases lines s with
      | nil => exact .inl rfl
      | cons line others => exact .inr rfl

/-! ### Visible lines -/

/-- The lines of a text that can be seen when a line feed follows it. -/
def shownLines (s : List Char) : List (List Char) :=
  ((rows s).map dropReturn).filter fun line => ¬Blank line

theorem filter_concat_nil (ls : List (List Char)) :
    (ls ++ [[]]).filter (fun line => ¬Blank line) = ls.filter fun line => ¬Blank line := by
  rw [List.filter_append, List.filter_cons_of_neg (by simpa using blank_nil), List.filter_nil,
    List.append_nil]

theorem shownLines_newline (s : List Char) : shownLines (s ++ ['\n']) = shownLines s := by
  rw [shownLines, rows_append_newline, List.map_append]
  exact filter_concat_nil _

theorem shownLines_crlf (h : Returnless s) : shownLines (crlf s) = shownLines s := by
  rw [shownLines, map_dropReturn_rows_crlf h, shownLines, map_dropReturn_rows h]

/-- A text between two that have no line breaks of their own. -/
theorem shownLines_between_crlf {before after : List Char} (hbefore : Unbroken before)
    (hafter : Unbroken after) (h : '\r' ∉ s) :
    shownLines (before ++ crlf s ++ after) = shownLines (before ++ s ++ after) := by
  have hcrlf : before ++ crlf s ++ after = crlf (before ++ s ++ after) := by
    rw [crlf_append, crlf_append, crlf_of_notMem fun hmem => (hbefore _ hmem).1 rfl,
      crlf_of_notMem fun hmem => (hafter _ hmem).1 rfl]
  have hreturn : '\r' ∉ before ++ s ++ after := by
    simp only [List.mem_append, not_or]
    exact ⟨⟨fun hmem => (hbefore _ hmem).2 rfl, h⟩, fun hmem => (hafter _ hmem).2 rfl⟩
  rw [hcrlf, shownLines_crlf (returnless_iff.mpr hreturn)]

theorem dropFinalNewlines_newline (s : List Char) :
    dropFinalNewlines (s ++ ['\n']) = dropFinalNewlines s := by
  simp [dropFinalNewlines]

theorem filter_lines (h : Returnless s) :
    (lines s).filter (fun line => ¬Blank line) = shownLines s := by
  rw [shownLines, map_dropReturn_rows h]
  rcases rows_eq_lines_or h with hrows | hrows
  · rw [hrows]
  · rw [hrows, filter_concat_nil]

/-- Line feeds at the end of a text end no visible line. -/
theorem filter_lines_dropFinalNewlines (h : '\r' ∉ s) :
    (lines (dropFinalNewlines s)).filter (fun line => ¬Blank line) = shownLines s := by
  induction s using List.reverseRecOn with
  | nil => rfl
  | append_singleton s c ih =>
    by_cases hc : c = '\n'
    · subst hc
      have hs : '\r' ∉ s := fun hmem => h (List.mem_append_left _ hmem)
      rw [dropFinalNewlines_newline, ih hs, shownLines_newline]
    · rw [dropFinalNewlines_concat hc, filter_lines (returnless_iff.mpr h)]

/-! ### Indented text -/

theorem blank_dropReturn_iff {line : List Char} : Blank (dropReturn line) ↔ Blank line := by
  unfold dropReturn
  split
  · next hlast =>
    obtain ⟨front, rfl⟩ := List.getLast?_eq_some_iff.mp hlast
    have hreturn : Blank ['\r'] := by decide
    rw [List.dropLast_concat, blank_append_iff]
    exact ⟨fun h => ⟨h, hreturn⟩, fun h => h.1⟩
  · exact Iff.rfl

theorem filter_map_dropReturn (ls : List (List Char)) :
    (ls.map dropReturn).filter (fun line => ¬Blank line) =
      (ls.filter fun line => ¬Blank line).map dropReturn := by
  simp only [List.filter_map, Function.comp_def, blank_dropReturn_iff]

theorem filter_indentedLines (levels : Nat) (s : List Char) :
    ((indentedLines levels s).filter fun line => ¬Blank line) =
      ((lines (dropFinalNewlines s)).filter fun line => ¬Blank line).map (margin levels ++ ·) := by
  rw [← filter_map_indentLine, indentedLines]
  split
  · next hnil =>
    rw [hnil]
    exact filter_concat_nil []
  · next hcons => rw [hcons]

theorem newline_notMem_indentedLines {levels : Nat} {row : List Char}
    (h : row ∈ indentedLines levels s) : '\n' ∉ row := by
  unfold indentedLines at h
  split at h
  · obtain rfl := List.mem_singleton.mp h
    exact List.not_mem_nil
  · next hcons =>
    rw [← hcons] at h
    obtain ⟨line, hline, rfl⟩ := List.mem_map.mp h
    exact newline_notMem_indentLine levels (newline_notMem_lines hline)

theorem flatMap_shownLines {rs : List (List Char)} (h : ∀ row ∈ rs, '\n' ∉ row) :
    rs.flatMap shownLines = (rs.map dropReturn).filter fun line => ¬Blank line := by
  induction rs with
  | nil => rfl
  | cons row rs ih =>
    obtain ⟨hrow, hrs⟩ := List.forall_mem_cons.mp h
    rw [List.flatMap_cons, ih hrs, shownLines, rows_of_notMem hrow, ← List.filter_append]
    rfl

/-- The visible lines of an indented text when it is read by lines again. -/
theorem flatMap_shownLines_indentedLines (levels : Nat) (s : List Char) :
    (indentedLines levels s).flatMap shownLines =
      (((lines (dropFinalNewlines s)).map dropReturn).filter fun line => ¬Blank line).map
        (margin levels ++ ·) := by
  rw [flatMap_shownLines fun _ => newline_notMem_indentedLines, filter_map_dropReturn,
    filter_indentedLines, filter_map_dropReturn, List.map_map, List.map_map]
  refine List.map_congr_left fun line hline => ?_
  have hblank : ¬Blank line := by simpa using (List.mem_filter.mp hline).2
  exact dropReturn_append (ne_nil_of_not_blank hblank) (margin levels)

/-- The carriage return that indentation leaves at the end of a text is not seen. -/
theorem filter_lines_crlf (h : '\r' ∉ s) :
    ((lines (dropFinalNewlines (crlf s))).map dropReturn).filter (fun line => ¬Blank line) =
      ((lines (dropFinalNewlines s)).map dropReturn).filter fun line => ¬Blank line := by
  have hshown : ((lines (dropFinalNewlines s)).map dropReturn).filter (fun line => ¬Blank line) =
      shownLines s := by
    rw [filter_map_dropReturn, filter_lines_dropFinalNewlines h, shownLines,
      map_dropReturn_rows (returnless_iff.mpr h), ← filter_map_dropReturn,
      map_dropReturn_rows (returnless_iff.mpr h)]
  cases s using List.reverseRecOn with
  | nil => rfl
  | append_singleton s c =>
    by_cases hc : c = '\n'
    · subst hc
      have hs : Returnless s := returnless_iff.mpr fun hmem => h (List.mem_append_left _ hmem)
      have hdrop : dropFinalNewlines (crlf (s ++ ['\n'])) = crlf s ++ ['\r'] := by
        have hcrlf : crlf (s ++ ['\n']) = crlf s ++ ['\r'] ++ ['\n'] := by simp [crlf_append]
        rw [hcrlf, dropFinalNewlines_newline, dropFinalNewlines_concat (by decide)]
      rw [hdrop, map_dropReturn_lines_crlf_append hs, hshown, shownLines_newline, shownLines,
        map_dropReturn_rows hs]
    · have hcrlf : crlf (s ++ [c]) = crlf s ++ [c] := by rw [crlf_append, crlf_cons hc, crlf_nil]
      rw [hcrlf, dropFinalNewlines_concat hc, ← hcrlf, lines_crlf (returnless_iff.mpr h),
        dropFinalNewlines_concat hc]

theorem flatMap_shownLines_crlf (levels : Nat) (h : '\r' ∉ s) :
    (indentedLines levels (crlf s)).flatMap shownLines =
      (indentedLines levels s).flatMap shownLines := by
  rw [flatMap_shownLines_indentedLines, filter_lines_crlf h, flatMap_shownLines_indentedLines]

/-- Of texts that line feeds end, the visible lines can be told one text after the other. -/
theorem filter_lines_unlines_append (texts : List (List Char)) (rest : List Char) :
    (lines (unlines texts ++ rest)).filter (fun line => ¬Blank line) =
      texts.flatMap shownLines ++ (lines rest).filter fun line => ¬Blank line := by
  rw [lines_unlines_append_rows, List.filter_append, List.filter_flatMap]
  rfl

end SchemaPolicy.Text
