import SchemaPolicy.Text.Blank

/-! How a line begins after its indentation, which tells the kinds of lines of a rules document
apart. -/

namespace SchemaPolicy.Text

/-- A line without its indentation. -/
def unindented (line : List Char) : List Char := line.dropWhile isBlank

/-- Whether a line begins with a text after its indentation. -/
def opensWith (opening : String) (line : List Char) : Bool :=
  opening.toList.isPrefixOf (unindented line)

/-- The first character of a line after its indentation. -/
def lead? (line : List Char) : Option Char := (unindented line).head?

/-- A line that begins with another character does not begin with the text. -/
theorem opensWith_eq_false {opening : String} {c d : Char} (hc : opening.toList.head? = some c)
    {line : List Char} (hd : lead? line = some d) (hne : d ≠ c) :
    opensWith opening line = false := by
  rw [Bool.eq_false_iff]
  intro hopens
  obtain ⟨rest, hrest⟩ := List.isPrefixOf_iff_prefix.mp hopens
  rw [lead?, ← hrest, List.head?_append, hc] at hd
  exact hne (Option.some.inj hd).symm

theorem unindented_append {s : List Char} (h : Blank s) (rest : List Char) :
    unindented (s ++ rest) = unindented rest :=
  List.dropWhile_append_of_pos h

theorem opensWith_of_eq_append {opening : String} {line rest : List Char}
    (h : unindented line = opening.toList ++ rest) : opensWith opening line = true := by
  rw [opensWith, h]
  exact List.isPrefixOf_iff_prefix.mpr (List.prefix_append _ _)

end SchemaPolicy.Text
