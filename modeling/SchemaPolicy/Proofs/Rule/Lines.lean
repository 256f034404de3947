import SchemaPolicy.Proofs.Text.Indent
import SchemaPolicy.Rule.Printer

/-! The text of a rule as lines: comment, opening line, preamble and a line for each operation
granted, with a closing brace after them. -/

namespace SchemaPolicy.Rule

/-- The line of an operation that is granted, without its end. -/
def allowText (op : Operation) (condition : String) : List Char :=
  "  allow ".toList ++ op.keyword.toList ++ ": if ".toList ++ condition.toList ++ [';']

/-- The lines of a block above its closing brace. -/
def body (rule : Rule) : List (List Char) :=
  (rule.comment?.elim [] fun comment => (Text.lines comment.toList).map ("// ".toList ++ ·)) ++
    ["match ".toList ++ rule.path.toList ++ " \x7b".toList] ++
    (rule.preamble?.elim [] fun preamble => Text.indentedLines 1 preamble.toList) ++
    Operation.all.filterMap fun op => (rule.access op).condition?.map (allowText op)

theorem commentLines_eq (comment : String) :
    commentLines comment =
      Text.unlines ((Text.lines comment.toList).map ("// ".toList ++ ·)) := by
  simp [commentLines, Text.unlines, List.flatMap_map]

theorem allowLine_eq (op : Operation) (access : Access) :
    allowLine op access = Text.unlines (access.condition?.map (allowText op)).toList := by
  unfold allowLine allowText
  cases access.condition? with
  | none => rfl
  | some condition => simp

theorem flatMap_allowLine (rule : Rule) (ops : List Operation) :
    (ops.flatMap fun op => allowLine op (rule.access op)) =
      Text.unlines (ops.filterMap fun op => (rule.access op).condition?.map (allowText op)) := by
  induction ops with
  | nil => rfl
  | cons op ops ih =>
    rw [List.flatMap_cons, ih, List.filterMap_cons, allowLine_eq]
    cases (rule.access op).condition? with
    | none => rfl
    | some condition => simp

theorem render_eq (rule : Rule) : rule.render = Text.unlines rule.body ++ ['\x7d'] := by
  have hcomment : rule.comment?.elim [] commentLines = Text.unlines (rule.comment?.elim []
      fun comment => (Text.lines comment.toList).map ("// ".toList ++ ·)) := by
    cases rule.comment? with
    | none => rfl
    | some comment => exact commentLines_eq comment
  have hmatch : matchLine rule.path =
      Text.unlines ["match ".toList ++ rule.path.toList ++ " \x7b".toList] := by
    unfold matchLine
    simp
  have hpreamble : (rule.preamble?.elim [] fun preamble =>
      Text.indent 1 preamble.toList ++ ['\n']) = Text.unlines (rule.preamble?.elim []
      fun preamble => Text.indentedLines 1 preamble.toList) := by
    cases rule.preamble? with
    | none => rfl
    | some preamble => exact Text.indent_newline 1 preamble.toList
  unfold render body
  simp only [Text.unlines_append, hcomment, hmatch, hpreamble, flatMap_allowLine]

/-- A rule whose lines have no line breaks of their own is set in line by line. -/
theorem indent_render (levels : Nat) {rule : Rule} (h : ∀ line ∈ rule.body, Text.Unbroken line) :
    Text.indent levels rule.render =
      Text.joinWith ['\n'] ((rule.body ++ [['\x7d']]).map (Text.indentLine levels)) := by
  rw [render_eq, Text.indent_unlines_concat levels h (by decide)]

end SchemaPolicy.Rule
