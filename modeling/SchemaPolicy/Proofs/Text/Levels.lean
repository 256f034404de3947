import Mathlib.Data.List.DropRight
import SchemaPolicy.Proofs.Text.LineBreak

/-! Indentation of a text that is set in already: the levels add up. Line feeds at the end of a text
are dropped each time, so the lines are the same both times only if the last one is not emptied. -/

namespace SchemaPolicy.Text

variable {s : List Char}

/-! ### The lines of an indented text -/

theorem subset_of_mem_lines {line : List Char} (h : line ∈ lines s) : line ⊆ s := by
  fun_induction lines s generalizing line with
  | case1 => exact absurd h List.not_mem_nil
  | case2 rest ih =>
    rcases List.mem_cons.mp h with rfl | h
    · exact List.nil_subset _
    · exact List.subset_cons_of_subset _ (ih h)
  | case3 rest ih =>
    rcases List.mem_cons.mp h with rfl | h
    · exact List.nil_subset _
    · exact List.subset_cons_of_subset _ (List.subset_cons_of_subset _ (ih h))
  | case4 c rest _ _ _ _ =>
    obtain rfl := List.mem_singleton.mp h
    exact List.cons_subset_cons c (List.nil_subset _)
  | case5 c rest _ _ first others hrest ih =>
    rcases List.mem_cons.mp h with rfl | h
    · exact List.cons_subset_cons c (ih (hrest ▸ List.mem_cons_self))
    · exact List.subset_cons_of_subset _ (ih (hrest ▸ List.mem_cons_of_mem _ h))

theorem dropFinalNewlines_subset (s : List Char) : dropFinalNewlines s ⊆ s :=
  (List.rdropWhile_prefix (· == '\n') s).subset

theorem unbroken_of_mem_lines (h : '\r' ∉ s) {line : List Char}
    (hline : line ∈ lines (dropFinalNewlines s)) : Unbroken line := by
  intro c hc
  refine ⟨?_, ?_⟩
  · rintro rfl
    exact newline_notMem_lines hline hc
  · rintro rfl
    exact h (dropFinalNewlines_subset s (subset_of_mem_lines hline hc))

theorem unbroken_indentLine (levels : Nat) {line : List Char} (h : Unbroken line) :
    Unbroken (indentLine levels line) := by
  unfold indentLine
  split
  · exact unbroken_nil
  · exact unbroken_append.mpr ⟨unbroken_margin levels, h⟩

theorem unbroken_of_mem_indentedLines {levels : Nat} (h : '\r' ∉ s) {row : List Char}
    (hrow : row ∈ indentedLines levels s) : Unbroken row := by
  have hlines : ∀ row ∈ (lines (dropFinalNewlines s)).map (indentLine levels), Unbroken row := by
    intro row hrow
    obtain ⟨line, hline, rfl⟩ := List.mem_map.mp hrow
    exact unbroken_indentLine levels (unbroken_of_mem_lines h hline)
  unfold indentedLines at hrow
  split at hrow
  · obtain rfl := List.mem_singleton.mp hrow
    exact unbroken_nil
  · next hcons => exact hlines row (hcons ▸ hrow)

theorem rows_indent_eq_indentedLines (levels : Nat) (s : List Char) :
    rows (indent levels s) = indentedLines levels s := by
  by_cases h : lines (dropFinalNewlines s) = []
  · rw [indent, indentedLines, h]
    rfl
  · obtain ⟨line, others, hlines⟩ := List.exists_cons_of_ne_nil h
    rw [rows_indent levels h, indentedLines, hlines]
    rfl

/-- Lines with line feeds between them stay lines when final line feeds are dropped, unless the last
one is empty. -/
theorem lines_dropFinalNewlines_joinWith {ls : List (List Char)} (h : ∀ line ∈ ls, Unbroken line)
    (hlast : ∀ line, ls.getLast? = some line → line ≠ []) :
    lines (dropFinalNewlines (joinWith ['\n'] ls)) = ls := by
  cases ls using List.reverseRecOn with
  | nil => rfl
  | append_singleton front last =>
    have hne : last ≠ [] := hlast last List.getLast?_concat
    obtain ⟨hfront, hunbroken⟩ := List.forall_mem_append.mp h
    have hunbroken := hunbroken last (List.mem_singleton_self last)
    have hend : (last.getLast hne) ≠ '\n' := (hunbroken _ (List.getLast_mem hne)).1
    have hdrop : dropFinalNewlines (unlines front ++ last) = unlines front ++ last := by
      rw [← List.dropLast_concat_getLast hne, ← List.append_assoc, dropFinalNewlines_concat hend]
    rw [joinWith_newline_append, hdrop, lines_unlines_append hfront,
      lines_of_unbroken hunbroken hne]

/-! ### Levels -/

theorem indentLine_indentLine (a b : Nat) (line : List Char) :
    indentLine b (indentLine a line) = indentLine (a + b) line := by
  by_cases h : Blank line
  · have hempty : ∀ levels, indentLine levels line = [] := fun _ => if_pos h
    rw [hempty, hempty]
    exact if_pos blank_nil
  · rw [indentLine_of_not_blank a h, indentLine_of_not_blank b (not_blank_append h),
      indentLine_of_not_blank (a + b) h, ← List.append_assoc, margin_append, Nat.add_comm]

theorem map_indentLine_indentedLines (a b : Nat) (s : List Char) :
    (indentedLines a s).map (indentLine b) = indentedLines (a + b) s := by
  have hlines : ((lines (dropFinalNewlines s)).map (indentLine a)).map (indentLine b) =
      (lines (dropFinalNewlines s)).map (indentLine (a + b)) := by
    rw [List.map_map]
    exact List.map_congr_left fun line _ => indentLine_indentLine a b line
  unfold indentedLines
  rw [← hlines]
  cases (lines (dropFinalNewlines s)).map (indentLine a) with
  | nil => exact congrArg (· :: []) (if_pos blank_nil)
  | cons line others => rfl

/-- What stands before the line feeds at the end of a text is nothing, or ends in a line that is not
blank. -/
def EndsVisibly (s : List Char) : Prop :=
  dropFinalNewlines s = [] ∨
    ∃ line, (lines (dropFinalNewlines s)).getLast? = some line ∧ ¬Blank line

theorem EndsVisibly.last (h : EndsVisibly s) {line : List Char}
    (hline : (lines (dropFinalNewlines s)).getLast? = some line) : ¬Blank line := by
  rcases h with hnil | ⟨last, hlast, hvisible⟩
  · rw [hnil] at hline
    contradiction
  · obtain rfl := Option.some.inj (hlast.symm.trans hline)
    exact hvisible

/-- A text that is set in has the lines that it had, set in one by one. -/
theorem lines_indent (h : '\r' ∉ s) (hend : EndsVisibly s) (levels : Nat) :
    lines (dropFinalNewlines (indent levels s)) =
      (lines (dropFinalNewlines s)).map (indentLine levels) := by
  refine lines_dropFinalNewlines_joinWith (fun row hrow => ?_) (fun row hrow => ?_)
  · obtain ⟨line, hline, rfl⟩ := List.mem_map.mp hrow
    exact unbroken_indentLine levels (unbroken_of_mem_lines h hline)
  · rw [List.getLast?_map, Option.map_eq_some_iff] at hrow
    obtain ⟨line, hline, rfl⟩ := hrow
    rw [indentLine_of_not_blank levels (hend.last hline)]
    exact List.append_ne_nil_of_right_ne_nil _ (ne_nil_of_not_blank (hend.last hline))

theorem indent_indent (h : '\r' ∉ s) (hend : EndsVisibly s) (a b : Nat) :
    indent b (indent a s) = indent (a + b) s := by
  rw [indent, lines_indent h hend, List.map_map, indent]
  exact congrArg _ (List.map_congr_left fun line _ => indentLine_indentLine a b line)

/-- A blank line at the end is emptied, and then taken for a line feed at the end. -/
example : indent 1 (indent 1 "a\n ".toList) = "    a".toList ∧
    indent 2 "a\n ".toList = "    a\n".toList := by decide

end SchemaPolicy.Text
