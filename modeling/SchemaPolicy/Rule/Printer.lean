import SchemaPolicy.Rule.Basic
import SchemaPolicy.Text.Lines

/-! The text of a rule. Conditions, paths and preambles are copied as they stand. -/

namespace SchemaPolicy.Rule

/-- The lines of a comment, each behind two slashes. -/
def commentLines (comment : String) : List Char :=
  (Text.lines comment.toList).flatMap fun line => "// ".toList ++ line ++ ['\n']

/-- The line that opens the block of a path. -/
def matchLine (path : String) : List Char :=
  "match ".toList ++ path.toList ++ " \x7b\n".toList

/-- The line of an operation; a denied operation has none. -/
def allowLine (op : Operation) (access : Access) : List Char :=
  match access.condition? with
  | none => []
  | some condition =>
    "  allow ".toList ++ op.keyword.toList ++ ": if ".toList ++ condition.toList ++ ";\n".toList

/-- The text of the block: comment, opening line, preamble, a line for each operation granted, and
the closing brace without a line end. -/
def render (rule : Rule) : List Char :=
  (rule.comment?.elim [] commentLines) ++ matchLine rule.path ++
    (rule.preamble?.elim [] fun preamble => Text.indent 1 preamble.toList ++ ['\n']) ++
    (Operation.all.flatMap fun op => allowLine op (rule.access op)) ++ ['\x7d']

end SchemaPolicy.Rule
