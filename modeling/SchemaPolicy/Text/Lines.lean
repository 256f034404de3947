import SchemaPolicy.Text.Blank

/-! Lines of a text, and indentation. A line ends at a line feed, together with a carriage return
directly before it; a final line feed ends the last line and opens no further one. -/

namespace SchemaPolicy.Text

/-- The lines of a text, without their ends. -/
def lines : List Char → List (List Char)
  | [] => []
  | '\n' :: rest => [] :: lines rest
  | '\r' :: '\n' :: rest => [] :: lines rest
  | c :: rest =>
    match lines rest with
    | [] => [[c]]
    | line :: others => (c :: line) :: others

/-- The texts one after the other, with a separator between neighbours. -/
def joinWith (separator : List Char) : List (List Char) → List Char
  | [] => []
  | [text] => text
  | text :: others => text ++ separator ++ joinWith separator others

/-- The text without the line feeds at its end. -/
def dropFinalNewlines (s : List Char) : List Char :=
  (s.reverse.dropWhile (· == '\n')).reverse

/-- The spaces in front of a line at a nesting level: two for each level. -/
def margin (levels : Nat) : List Char := List.replicate (2 * levels) ' '

/-- A blank line becomes empty; any other line is set in by `levels`. -/
def indentLine (levels : Nat) (line : List Char) : List Char :=
  if Blank line then [] else margin levels ++ line

/-- Sets every line of a text in by `levels`; line feeds at the end are dropped. -/
def indent (levels : Nat) (s : List Char) : List Char :=
  joinWith ['\n'] ((lines (dropFinalNewlines s)).map (indentLine levels))

end SchemaPolicy.Text
