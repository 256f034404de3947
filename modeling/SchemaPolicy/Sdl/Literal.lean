import SchemaPolicy.Text.Bytes
import SchemaPolicy.Text.Digit
import SchemaPolicy.Text.Lines

/-! Literals of a schema text: quoted strings, block strings and numbers. -/

namespace SchemaPolicy.Sdl

/-- The character of a `\u` escape. Of the four characters the first may be a plus sign. -/
def unicodeEscape? : List Char → Option Char
  | '+' :: digits => Text.charOfDigits? digits
  | digits => Text.charOfDigits? digits

namespace Quoted

/-- Splits a text that starts inside a quoted string at the quote that ends it, which no backslash
escapes. A string ends on the line where it starts. -/
def split : List Char → Option (List Char × List Char)
  | [] => none
  | '"' :: rest => some ([], rest)
  | '\n' :: _ => none
  | '\\' :: '\n' :: _ => none
  | '\\' :: c :: rest => (split rest).map fun parts => ('\\' :: c :: parts.1, parts.2)
  | c :: rest => (split rest).map fun parts => (c :: parts.1, parts.2)

/-- The character of an escape with one letter. The letter `b` stands for U+0010. -/
def letter? : Char → Option Char
  | '"' => some '"'
  | '\\' => some '\\'
  | '/' => some '/'
  | 'b' => some '\x10'
  | 'f' => some '\x0c'
  | 'n' => some '\n'
  | 'r' => some '\r'
  | 't' => some '\t'
  | _ => none

/-- The text that a quoted string stands for, with its escapes resolved; `none` if one of them
stands for no character. -/
def decode : List Char → Option (List Char)
  | [] => some []
  | '\\' :: 'u' :: a :: b :: c :: d :: rest => do
    let first ← unicodeEscape? [a, b, c, d]
    return first :: (← decode rest)
  | '\\' :: c :: rest => do
    let first ← letter? c
    return first :: (← decode rest)
  | ['\\'] => none
  | c :: rest => do return c :: (← decode rest)

end Quoted

namespace Block

/-- Splits a text that starts inside a block string at the three quotes that end it. Three quotes
after a backslash (`escaped` tells of the character before) do not. -/
def split (escaped : Bool) : List Char → Option (List Char × List Char)
  | [] => none
  | '"' :: '"' :: '"' :: rest =>
    if escaped then
      (split false rest).map fun parts => ('"' :: '"' :: '"' :: parts.1, parts.2)
    else some ([], rest)
  | c :: rest => (split (c == '\\') rest).map fun parts => (c :: parts.1, parts.2)

/-- The text without the characters that take its first `n` bytes. -/
def dropBytes : Nat → List Char → List Char
  | 0, s => s
  | _, [] => []
  | n + 1, c :: rest => dropBytes (n + 1 - c.utf8Size) rest

/-- The bytes of white space that all lines that are not blank start with. -/
def commonIndent (lines : List (List Char)) : Nat :=
  let widths := (lines.filter fun line => !decide (Text.Blank line)).map fun line =>
    Text.byteSize (line.takeWhile Text.isBlank)
  widths.min?.getD 0

/-- Removes `width` bytes from the start of a line that has as many. -/
def outdent (width : Nat) (line : List Char) : List Char :=
  if width ≤ Text.byteSize line then dropBytes width line else line

/-- The lines without the blank ones at both ends. -/
def trimLines (lines : List (List Char)) : List (List Char) :=
  let blank := fun line => decide (Text.Blank line)
  ((lines.dropWhile blank).reverse.dropWhile blank).reverse

/-- Replaces three quotes after a backslash by three quotes. -/
def unescape : List Char → List Char
  | '\\' :: '"' :: '"' :: '"' :: rest => '"' :: '"' :: '"' :: unescape rest
  | c :: rest => c :: unescape rest
  | [] => []

/-- The text that a block string stands for: the lines after the first lose their common indent,
and blank lines at the ends are dropped. -/
def decode (s : List Char) : List Char :=
  let rows := match Text.lines s with
    | [] => []
    | first :: others => first :: others.map (outdent (commonIndent others))
  unescape (Text.joinWith ['\n'] (trimLines rows))

end Block

namespace Number

/-- Whether a text is made of one or more digits. -/
def isDigits (s : List Char) : Bool := !s.isEmpty && s.all Char.isDigit

/-- An integer without superfluous zeros; it may start with a minus sign. -/
def isInteger : List Char → Bool
  | '-' :: digits => isNatural digits
  | digits => isNatural digits
where
  /-- Zero, or digits that start with another digit. -/
  isNatural (s : List Char) : Bool :=
    s == ['0'] || (isDigits s && s.head? != some '0')

/-- What may follow the mark of an exponent: a sign and digits, or digits of which the first is
neither 0 nor 9. -/
def isExponent : List Char → Bool
  | '-' :: digits => isDigits digits
  | '+' :: digits => isDigits digits
  | first :: digits => '1' ≤ first && first ≤ '8' && digits.all Char.isDigit
  | [] => false

/-- Splits a text around the last character that satisfies `p`. -/
def splitLast (p : Char → Bool) (s : List Char) : Option (List Char × List Char) :=
  match s.reverse.dropWhile (!p ·) with
  | [] => none
  | _ :: before => some (before.reverse, (s.reverse.takeWhile (!p ·)).reverse)

/-- Whether a character can stand before an exponent. -/
def isExponentMark (c : Char) : Bool := c == 'e' || c == 'E'

/-- An integer, or an integer, a point and digits. -/
def isMantissa (s : List Char) : Bool :=
  match splitLast (· == '.') s with
  | none => isInteger s
  | some (whole, fraction) => isInteger whole && isDigits fraction

/-- Whether a text spells a number with a fraction or an exponent. -/
def isFloat (s : List Char) : Bool :=
  match splitLast isExponentMark s with
  | none => s.contains '.' && isMantissa s
  | some (mantissa, exponent) => isMantissa mantissa && isExponent exponent

/-- The integer that digits spell, perhaps behind a minus sign. -/
def integer : List Char → Int
  | '-' :: digits => - (Text.numberOf 10 digits : Int)
  | digits => Text.numberOf 10 digits

end Number

end SchemaPolicy.Sdl
