import SchemaPolicy.Proofs.Rule.Lines
import SchemaPolicy.Proofs.Text.Rows

/-! The rows of a rule that is set in. They are the lines of its text one by one, whatever its path,
comment, preamble and conditions hold, and the lines of its comment come first. -/

namespace SchemaPolicy.Rule

open Text

/-- The rule without its comment. -/
def uncommented (rule : Rule) : Rule := { rule with comment? := none }

/-- The rows that the comment of a rule makes. A carriage return at the end of a comment's line
belongs to the line break that comes after it. -/
def remarks (rule : Rule) : List (List Char) :=
  rule.comment?.elim [] fun comment =>
    (lines comment.toList).map fun line => "// ".toList ++ dropReturn line

/-- The closing brace is a line of its own. -/
theorem exists_lines_render (rule : Rule) : ∃ ls, lines rule.render = ls ++ [['\x7d']] := by
  refine ⟨rule.body.flatMap fun part => (rows part).map dropReturn, ?_⟩
  rw [render_eq, lines_unlines_append_rows]
  rfl

theorem rows_indent_render (levels : Nat) (rule : Rule) :
    rows (indent levels rule.render) = (lines rule.render).map (indentLine levels) := by
  have hrender : dropFinalNewlines rule.render = rule.render := by
    rw [render_eq, dropFinalNewlines_concat (by decide)]
  obtain ⟨ls, hls⟩ := exists_lines_render rule
  rw [rows_indent levels (by simp [hrender, hls]), hrender]

/-! ### The comment of a rule -/

theorem dropReturn_remark (line : List Char) :
    dropReturn ("// ".toList ++ line) = "// ".toList ++ dropReturn line := by
  have hslashes : "// ".toList = ['/', '/', ' '] := by simp
  rw [hslashes]
  simp [dropReturn_cons]

theorem lines_commentLines_append (comment : String) (rest : List Char) :
    lines (commentLines comment ++ rest) =
      ((lines comment.toList).map fun line => "// ".toList ++ dropReturn line) ++ lines rest := by
  have hrows : ∀ row ∈ (lines comment.toList).map ("// ".toList ++ ·), '\n' ∉ row := by
    intro row hrow
    obtain ⟨line, hline, rfl⟩ := List.mem_map.mp hrow
    simp [newline_notMem_lines hline]
  rw [commentLines_eq, lines_unlines_append_eq hrows, List.map_map]
  simp only [Function.comp_def, dropReturn_remark]

/-- The lines of a rule are those of its comment and those that it has without a comment. -/
theorem lines_render (rule : Rule) :
    lines rule.render = rule.remarks ++ lines rule.uncommented.render := by
  have hrender : rule.render = rule.comment?.elim [] commentLines ++ rule.uncommented.render := by
    have haccess : rule.uncommented.access = rule.access := by
      funext op
      cases op <;> rfl
    unfold render
    rw [haccess]
    simp [uncommented]
  rw [hrender, remarks]
  cases rule.comment? with
  | none => rfl
  | some comment => exact lines_commentLines_append comment _

theorem slashes_of_mem_remarks {rule : Rule} {row : List Char} (h : row ∈ rule.remarks) :
    "// ".toList <+: row := by
  unfold remarks at h
  cases hcomment : rule.comment? with
  | none =>
    rw [hcomment] at h
    exact absurd h List.not_mem_nil
  | some comment =>
    rw [hcomment] at h
    obtain ⟨line, -, rfl⟩ := List.mem_map.mp h
    exact List.prefix_append _ _

/-- The rows of a rule that is set in are those of its comment, and those it has without one. -/
theorem rows_indent_eq (levels : Nat) (rule : Rule) :
    rows (indent levels rule.render) =
      rule.remarks.map (margin levels ++ ·) ++ rows (indent levels rule.uncommented.render) := by
  have hset : rule.remarks.map (indentLine levels) = rule.remarks.map (margin levels ++ ·) := by
    refine List.map_congr_left fun row hrow => indentLine_of_not_blank levels ?_
    have hslash : '/' ∈ row := (slashes_of_mem_remarks hrow).subset (by simp)
    exact not_blank_of_mem hslash (by decide)
  rw [rows_indent_render, rows_indent_render, lines_render, List.map_append, hset]

/-- A rule without a comment begins with its opening line. -/
theorem matchLine_prefix_rows (levels : Nat) {rule : Rule} (h : rule.comment? = none) :
    (lines (matchLine rule.path)).map (indentLine levels) <+: rows (indent levels rule.render) := by
  obtain ⟨opening, hopening⟩ : ∃ opening, matchLine rule.path = opening ++ ['\n'] := by
    refine ⟨"match ".toList ++ rule.path.toList ++ " \x7b".toList, ?_⟩
    unfold matchLine
    simp
  obtain ⟨rest, hrest⟩ : ∃ rest, rule.render = opening ++ '\n' :: rest := by
    unfold render
    rw [h, hopening]
    simp only [Option.elim_none, List.nil_append, List.append_assoc, List.cons_append]
    exact ⟨_, rfl⟩
  have hlines : lines (opening ++ ['\n']) = (rows opening).map dropReturn := by
    rw [lines_append_newline_eq, lines, List.append_nil]
  rw [rows_indent_render, hopening, hlines, hrest, lines_append_newline_eq, List.map_append]
  exact List.prefix_append _ _

end SchemaPolicy.Rule
