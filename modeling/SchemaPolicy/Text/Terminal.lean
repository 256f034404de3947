/-! Characters that command a terminal. A text that someone else chose is written to a terminal
without them, so that it cannot ring, erase or recolour what stands around it. Tabs and the ends of
lines stay as they are. -/

namespace SchemaPolicy.Text

/-- A character as it is written to a terminal: the escape, the bell, the backspace, the form feed
and the delete character by two hexadecimal digits, the control characters behind ASCII by their
code, and any other as it is. -/
def terminalChar (c : Char) : List Char :=
  match c with
  | '\x07' => ['\\', 'x', '0', '7']
  | '\x08' => ['\\', 'x', '0', '8']
  | '\x0c' => ['\\', 'x', '0', 'c']
  | '\x1b' => ['\\', 'x', '1', 'b']
  | '\x7f' => ['\\', 'x', '7', 'f']
  | c =>
    if 0x80 ≤ c.toNat ∧ c.toNat ≤ 0x9F then
      ['\\', 'u', '\x7b'] ++ Nat.toDigits 16 c.toNat ++ ['\x7d']
    else [c]

/-- A text as it is written to a terminal. -/
def terminalSafe (s : String) : String := String.ofList (s.toList.flatMap terminalChar)

end SchemaPolicy.Text
