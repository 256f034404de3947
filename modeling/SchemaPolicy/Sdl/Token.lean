import SchemaPolicy.Sdl.Document
import SchemaPolicy.Sdl.Literal

/-! Tokens of a schema text. White space, commas and comments separate tokens and are dropped. -/

namespace SchemaPolicy.Sdl

/-- The punctuation marks. -/
inductive Mark where
  | bang
  | dollar
  | colon
  | equals
  | atSign
  | bar
  | ampersand
  | spread
  | openParen
  | closeParen
  | openBracket
  | closeBracket
  | openBrace
  | closeBrace
deriving DecidableEq, Repr

/-- What a token is, apart from its place. -/
inductive Lexeme where
  | mark (mark : Mark)
  | name (text : String)
  | int (value : Int)
  | float (text : String)
  | string (text : String)
deriving DecidableEq, Repr

/-- A token and the place where it starts. -/
structure Token where
  lexeme : Lexeme
  position : Position
deriving DecidableEq, Repr

/-- The tokens of a text up to the place where no further token can be read. -/
structure Tokens where
  tokens : List Token
  stop : Position
  /-- Whether reading stopped at the end of the text. -/
  complete : Bool
deriving DecidableEq, Repr

namespace Position

/-- The place behind a character. -/
def after (position : Position) (c : Char) : Position :=
  if c = '\n' then { line := position.line + 1, column := 1 }
  else { position with column := position.column + 1 }

/-- The start of the next line. -/
def nextLine (position : Position) : Position := { line := position.line + 1, column := 1 }

/-- The place some columns further on. -/
def right (position : Position) (n : Nat) : Position :=
  { position with column := position.column + n }

end Position

namespace Token

/-- How deep brackets of all kinds may nest. -/
def nestingLimit : Nat := 50

mutual

/-- Drops what separates tokens. A tab is eight columns wide; a carriage return and a byte order
mark have no width. -/
def skip (position : Position) : List Char → Position × List Char
  | [] => (position, [])
  | c :: rest =>
    if c = '\uFEFF' ∨ c = '\r' then skip position rest
    else if c = '\t' then skip (position.right 8) rest
    else if c = '\n' then skip position.nextLine rest
    else if c = ' ' ∨ c = ',' then skip (position.right 1) rest
    else if c = '#' then skipComment position rest
    else (position, c :: rest)

/-- Drops the rest of a comment with the character that ends its line. The text of a comment has
no width. -/
def skipComment (position : Position) : List Char → Position × List Char
  | [] => (position, [])
  | c :: rest =>
    if c = '\r' ∨ c = '\n' then skip position.nextLine rest else skipComment position rest

end

/-- Whether a name can start with a character. -/
def startsName (c : Char) : Bool := c.isAlpha || c == '_'

/-- Whether a name can go on with a character. -/
def continuesName (c : Char) : Bool := c.isAlphanum || c == '_'

/-- Whether a number ends before the character. -/
def endsNumber (c : Char) : Bool := " \n\r\t,#!$:=@|&()[]\x7b\x7d".toList.contains c

/-- The number that some characters spell; integers have 64 bits. -/
def number? (s : List Char) : Option Lexeme :=
  if Number.isInteger s then
    let value := Number.integer s
    if Text.fitsWord value then some (.int value) else none
  else if Number.isFloat s then some (.float (String.ofList s))
  else none

/-- The mark that is written by a single character. -/
def mark? : Char → Option Mark
  | '!' => some .bang
  | '$' => some .dollar
  | ':' => some .colon
  | '=' => some .equals
  | '@' => some .atSign
  | '|' => some .bar
  | '&' => some .ampersand
  | '(' => some .openParen
  | ')' => some .closeParen
  | '[' => some .openBracket
  | ']' => some .closeBracket
  | '\x7b' => some .openBrace
  | '\x7d' => some .closeBrace
  | _ => none

/-- A token that was read: what it is, the text that it takes, and the text behind it. -/
structure Reading where
  lexeme : Lexeme
  taken : List Char
  rest : List Char

/-- Reads the token that a text starts with. -/
def read? : List Char → Option Reading
  | [] => none
  | '.' :: '.' :: '.' :: rest => some ⟨.mark .spread, "...".toList, rest⟩
  | '"' :: '"' :: '"' :: rest =>
    (Block.split false rest).map fun (body, rest) =>
      ⟨.string (String.ofList (Block.decode body)), quotes ++ body ++ quotes, rest⟩
  | '"' :: rest => do
    let (body, rest) ← Quoted.split rest
    return ⟨.string (String.ofList (← Quoted.decode body)), '"' :: body ++ ['"'], rest⟩
  | c :: rest =>
    if startsName c then
      let taken := c :: rest.takeWhile continuesName
      some ⟨.name (String.ofList taken), taken, rest.dropWhile continuesName⟩
    else if c = '-' ∨ c.isDigit then
      let taken := c :: rest.takeWhile (!endsNumber ·)
      (number? taken).map fun lexeme => ⟨lexeme, taken, rest.dropWhile (!endsNumber ·)⟩
    else (mark? c).map fun mark => ⟨.mark mark, [c], rest⟩
where
  /-- What opens and closes a block string. -/
  quotes : List Char := ['"', '"', '"']

/-- The nesting that is left after a token, or `none` where the token would exceed the limit. -/
def nestingAfter? (left : Nat) : Lexeme → Option Nat
  | .mark .openParen | .mark .openBracket | .mark .openBrace =>
    if left = 0 then none else some (left - 1)
  | .mark .closeParen | .mark .closeBracket | .mark .closeBrace => some (left + 1)
  | _ => some left

/-- The tokens of a text that starts at a place, with so much nesting left. Every token takes a
character, so `limit` bounds their number. -/
def scan (position : Position) (left : Nat) (s : List Char) : (limit : Nat) → Tokens
  | 0 => { tokens := [], stop := position, complete := false }
  | limit + 1 =>
    match skip position s with
    | (start, []) => { tokens := [], stop := start, complete := true }
    | (start, text) =>
      let step := do
        let reading ← read? text
        return (reading, ← nestingAfter? left reading.lexeme)
      match step with
      | none => { tokens := [], stop := start, complete := false }
      | some (reading, left) =>
        let others := scan (reading.taken.foldl Position.after start) left reading.rest limit
        { others with tokens := ⟨reading.lexeme, start⟩ :: others.tokens }

end Token

/-- The tokens of a text. Every token takes a character, so the length of the text bounds their
number. -/
def Tokens.ofText (text : String) : Tokens :=
  Token.scan {} Token.nestingLimit text.toList (text.length + 1)

end SchemaPolicy.Sdl
