import SchemaPolicy.Text.Digit

/-! Strings of a TOML document. Each reader starts behind the opening quotes, and gives the text of
the string and what follows the closing quotes. -/

namespace SchemaPolicy.Toml.Quoted

/-- Any character but a control character; tabs are allowed. -/
def isPlain (c : Char) : Bool := c == '\t' || (' ' ≤ c && c != '\x7f')

/-- The character of an escape with one letter. -/
def letter? : Char → Option Char
  | 'b' => some '\x08'
  | 'f' => some '\x0c'
  | 'n' => some '\n'
  | 'r' => some '\r'
  | 't' => some '\t'
  | '\\' => some '\\'
  | '"' => some '"'
  | _ => none

/-- A character, put in front of the rest of a string. -/
def cons? (c : Option Char) (rest : Option (List Char × List Char)) :
    Option (List Char × List Char) := do
  let c ← c
  let (body, rest) ← rest
  return (c :: body, rest)

/-- A string in one pair of double quotes, in which a backslash starts an escape. -/
def basic : List Char → Option (List Char × List Char)
  | [] => none
  | '"' :: rest => some ([], rest)
  | '\\' :: 'u' :: a :: b :: c :: d :: rest => cons? (Text.charOfDigits? [a, b, c, d]) (basic rest)
  | '\\' :: 'U' :: a :: b :: c :: d :: e :: f :: g :: h :: rest =>
    cons? (Text.charOfDigits? [a, b, c, d, e, f, g, h]) (basic rest)
  | '\\' :: c :: rest => cons? (letter? c) (basic rest)
  | c :: rest => if isPlain c && c != '\\' then cons? (some c) (basic rest) else none

/-- A string in one pair of single quotes, in which all characters stand for themselves. -/
def literal : List Char → Option (List Char × List Char)
  | [] => none
  | '\'' :: rest => some ([], rest)
  | c :: rest => if isPlain c then cons? (some c) (literal rest) else none

/-- Whether a line ends here, apart from spaces and tabs. -/
def endsLine : List Char → Bool
  | ' ' :: rest => endsLine rest
  | '\t' :: rest => endsLine rest
  | '\n' :: _ => true
  | '\r' :: '\n' :: _ => true
  | _ => false

/-- A string in three double quotes. A backslash at the end of a line drops what is blank from
there on (`dropping`). Up to two quotes may stand directly before the closing ones. -/
def longBasic (dropping : Bool) : List Char → Option (List Char × List Char)
  | [] => none
  | '"' :: '"' :: '"' :: '"' :: '"' :: rest => some (['"', '"'], rest)
  | '"' :: '"' :: '"' :: '"' :: rest => some (['"'], rest)
  | '"' :: '"' :: '"' :: rest => some ([], rest)
  | '\r' :: '\n' :: rest =>
    if dropping then longBasic true rest else cons? (some '\n') (longBasic false rest)
  | '\n' :: rest =>
    if dropping then longBasic true rest else cons? (some '\n') (longBasic false rest)
  | '\\' :: 'u' :: a :: b :: c :: d :: rest =>
    cons? (Text.charOfDigits? [a, b, c, d]) (longBasic false rest)
  | '\\' :: 'U' :: a :: b :: c :: d :: e :: f :: g :: h :: rest =>
    cons? (Text.charOfDigits? [a, b, c, d, e, f, g, h]) (longBasic false rest)
  | '\\' :: c :: rest =>
    if endsLine (c :: rest) then longBasic true (c :: rest)
    else cons? (letter? c) (longBasic false rest)
  | c :: rest =>
    if dropping && (c == ' ' || c == '\t') then longBasic true rest
    else if isPlain c && c != '\\' then cons? (some c) (longBasic false rest)
    else none

/-- A string in three single quotes. Up to two quotes may stand directly before the closing
ones. -/
def longLiteral : List Char → Option (List Char × List Char)
  | [] => none
  | '\'' :: '\'' :: '\'' :: '\'' :: '\'' :: rest => some (['\'', '\''], rest)
  | '\'' :: '\'' :: '\'' :: '\'' :: rest => some (['\''], rest)
  | '\'' :: '\'' :: '\'' :: rest => some ([], rest)
  | '\r' :: '\n' :: rest => cons? (some '\n') (longLiteral rest)
  | c :: rest =>
    if isPlain c || c == '\n' then cons? (some c) (longLiteral rest) else none

/-- The text without the line end in front, which does not belong to a string of several lines. -/
def dropNewline : List Char → List Char
  | '\n' :: rest => rest
  | '\r' :: '\n' :: rest => rest
  | s => s

/-- A string of any of the four forms, from its opening quotes on. -/
def any : List Char → Option (List Char × List Char)
  | '"' :: '"' :: '"' :: rest => longBasic false (dropNewline rest)
  | '"' :: rest => basic rest
  | '\'' :: '\'' :: '\'' :: rest => longLiteral (dropNewline rest)
  | '\'' :: rest => literal rest
  | _ => none

/-- A string of a form that fits on one line, from its opening quote on. -/
def short : List Char → Option (List Char × List Char)
  | '"' :: rest => basic rest
  | '\'' :: rest => literal rest
  | _ => none

end SchemaPolicy.Toml.Quoted
