import SchemaPolicy.Proofs.Text.Lines

/-! Indentation of texts that are put together from lines: each line is set in by itself. -/

namespace SchemaPolicy.Text

/-- The lines of an indented text; a text without lines counts as one empty line, as it does where
a line feed follows it. -/
def indentedLines (levels : Nat) (s : List Char) : List (List Char) :=
  match (lines (dropFinalNewlines s)).map (indentLine levels) with
  | [] => [[]]
  | line :: others => line :: others

theorem indent_newline (levels : Nat) (s : List Char) :
    indent levels s ++ ['\n'] = unlines (indentedLines levels s) := by
  unfold indent indentedLines
  split
  · next h => rw [h]; rfl
  · next line others h => rw [h, joinWith_newline_terminated (by simp)]

theorem dropFinalNewlines_concat {c : Char} (hc : c ≠ '\n') (s : List Char) :
    dropFinalNewlines (s ++ [c]) = s ++ [c] := by
  simp [dropFinalNewlines, hc]

/-- The lines of a text that does not end in a line break. -/
theorem lines_unlines_concat {ls : List (List Char)} (h : ∀ line ∈ ls, Unbroken line) {c : Char}
    (hc : c ≠ '\n' ∧ c ≠ '\r') : lines (dropFinalNewlines (unlines ls ++ [c])) = ls ++ [[c]] := by
  have hlast : Unbroken [c] := unbroken_cons.mpr ⟨hc, unbroken_nil⟩
  rw [dropFinalNewlines_concat hc.1, lines_unlines_append h, lines_of_unbroken hlast (by simp)]

theorem indent_unlines_concat (levels : Nat) {ls : List (List Char)}
    (h : ∀ line ∈ ls, Unbroken line) {c : Char} (hc : c ≠ '\n' ∧ c ≠ '\r') :
    indent levels (unlines ls ++ [c]) =
      joinWith ['\n'] ((ls ++ [[c]]).map (indentLine levels)) := by
  rw [indent, lines_unlines_concat h hc]

theorem indentedLines_unlines_concat (levels : Nat) {ls : List (List Char)}
    (h : ∀ line ∈ ls, Unbroken line) {c : Char} (hc : c ≠ '\n' ∧ c ≠ '\r') :
    indentedLines levels (unlines ls ++ [c]) = (ls ++ [[c]]).map (indentLine levels) := by
  rw [indentedLines, lines_unlines_concat h hc]
  split
  · next hnil => simp at hnil
  · next hcons => exact hcons.symm

/-! ### Indented lines -/

theorem blank_nil : Blank [] := fun _ hc => absurd hc List.not_mem_nil

theorem not_blank_of_mem {line : List Char} {c : Char} (hmem : c ∈ line) (hc : isBlank c = false) :
    ¬Blank line := by
  intro hblank
  rw [hblank c hmem] at hc
  contradiction

theorem ne_nil_of_not_blank {line : List Char} (h : ¬Blank line) : line ≠ [] := by
  rintro rfl
  exact h blank_nil

theorem indentLine_of_not_blank (levels : Nat) {line : List Char} (h : ¬Blank line) :
    indentLine levels line = margin levels ++ line := by
  rw [indentLine, if_neg h]

theorem not_blank_append {s t : List Char} (h : ¬Blank t) : ¬Blank (s ++ t) :=
  fun hblank => h fun c hc => hblank c (List.mem_append_right s hc)

theorem margin_append (a b : Nat) : margin a ++ margin b = margin (a + b) := by
  simp only [margin, List.replicate_append_replicate, Nat.mul_add]

theorem unbroken_margin (levels : Nat) : Unbroken (margin levels) := by
  intro c hc
  obtain rfl := List.eq_of_mem_replicate hc
  decide

theorem blank_margin (levels : Nat) : Blank (margin levels) := by
  intro c hc
  obtain rfl := List.eq_of_mem_replicate hc
  decide

/-- Of lines that are set in, those stay visible that were so. -/
theorem filter_map_indentLine (levels : Nat) (ls : List (List Char)) :
    ((ls.map (indentLine levels)).filter fun line => ¬Blank line) =
      (ls.filter fun line => ¬Blank line).map (margin levels ++ ·) := by
  induction ls with
  | nil => rfl
  | cons line ls ih =>
    by_cases h : Blank line
    · have hempty : indentLine levels line = [] := if_pos h
      rw [List.map_cons, hempty, List.filter_cons_of_neg (by simpa using blank_nil), ih,
        List.filter_cons_of_neg (by simpa using h)]
    · have hset := indentLine_of_not_blank levels h
      rw [List.map_cons, hset, List.filter_cons_of_pos (by simpa using not_blank_append h), ih,
        List.filter_cons_of_pos (by simpa using h), List.map_cons]

theorem eq_nil_of_blank_indentLine {levels : Nat} {line : List Char}
    (h : Blank (indentLine levels line)) : indentLine levels line = [] := by
  by_cases hline : Blank line
  · exact if_pos hline
  · rw [indentLine_of_not_blank levels hline] at h
    exact absurd h (not_blank_append hline)

/-- A line that is not blank stays so, and gets no line break, when it is set in. -/
theorem indentLine_solid (levels : Nat) {line : List Char} (h : Unbroken line ∧ ¬Blank line) :
    Unbroken (indentLine levels line) ∧ ¬Blank (indentLine levels line) := by
  rw [indentLine_of_not_blank levels h.2]
  exact ⟨unbroken_append.mpr ⟨unbroken_margin levels, h.1⟩, not_blank_append h.2⟩

end SchemaPolicy.Text
