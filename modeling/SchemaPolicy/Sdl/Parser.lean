import SchemaPolicy.Sdl.Token

/-! Reading a schema document from its tokens. Reading fails at the first token that does not fit,
or where the tokens stop; two mistakes are found only after a construct is complete and fail at
its first word. -/

namespace SchemaPolicy.Sdl

/-- A step of reading: takes tokens off the front, or fails at a place. -/
abbrev Parser := StateT Tokens (Except Position)

namespace Parser

/-- The next token, which stays. -/
def peek : Parser (Option Lexeme) := do return (← get).tokens.head?.map Token.lexeme

/-- The place of the next token, or the one where the tokens stop. -/
def here : Parser Position := do
  let state ← get
  return (state.tokens.head?.map Token.position).getD state.stop

/-- Fails at the next token. -/
def fail {α : Type} : Parser α := do throw (← here)

/-- Drops the next token. -/
def advance : Parser Unit := modify fun state => { state with tokens := state.tokens.tail }

/-- Whether a mark is next. -/
def nextIs (mark : Mark) : Parser Bool := do return (← peek) == some (.mark mark)

/-- Takes a mark, if it is next; tells whether it was. -/
def accept (mark : Mark) : Parser Bool := do
  if ← nextIs mark then
    advance
    return true
  else
    return false

/-- Takes a mark, or fails. -/
def expect (mark : Mark) : Parser Unit := do
  if !(← accept mark) then fail

def name : Parser String := do
  match ← peek with
  | some (.name text) =>
    advance
    return text
  | _ => fail

/-- Takes a certain name, if it is next; tells whether it was. -/
def acceptName (text : String) : Parser Bool := do
  if (← peek) == some (.name text) then
    advance
    return true
  else
    return false

/-- Takes the description that may stand before a definition, a field or a value. -/
def description : Parser Unit := do
  if let some (.string _) := ← peek then advance

/-- Takes items as long as `more` holds, at most `limit` of them. -/
def repeatUpTo {α : Type} (more : Parser Bool) (item : Parser α) : (limit : Nat) → Parser (List α)
  | 0 => return []
  | limit + 1 => do
    if ← more then
      let first ← item
      return first :: (← repeatUpTo more item limit)
    else
      return []

/-- Takes items as long as `more` holds. Every item takes a token, so the number of tokens bounds
the number of items. -/
def repeatWhile {α : Type} (more : Parser Bool) (item : Parser α) : Parser (List α) := do
  repeatUpTo more item ((← get).tokens.length + 1)

/-- Takes items up to a closing mark, and the mark. -/
def upTo {α : Type} (close : Mark) (item : Parser α) : Parser (List α) := do
  let items ← repeatWhile (do return !(← nextIs close)) item
  expect close
  return items

/-- Takes one or more items up to a closing mark, and the mark. -/
def someUpTo {α : Type} (close : Mark) (item : Parser α) : Parser (List α) := do
  let first ← item
  return first :: (← upTo close item)

/-- Takes one or more items with a mark between neighbours. -/
def separated {α : Type} (mark : Mark) (item : Parser α) : Parser (List α) := do
  let first ← item
  return first :: (← repeatWhile (accept mark) item)

/-- The value that a bare name stands for. -/
def wordValue : String → Value
  | "true" => .boolean true
  | "false" => .boolean false
  | "null" => .null
  | word => .word word

/-- Takes a value with at most `depth` levels of lists and objects, with or without variables. -/
def value (allowVariable : Bool) : (depth : Nat) → Parser Value
  | 0 => fail
  | depth + 1 => do
    match ← peek with
    | some (.name text) => advance; return wordValue text
    | some (.int number) => advance; return .int number
    | some (.float text) => advance; return .float text
    | some (.string text) => advance; return .string text
    | some (.mark .dollar) =>
      if allowVariable then
        advance
        return .variable (← name)
      else fail
    | some (.mark .openBracket) =>
      advance
      return .list (← upTo .closeBracket (value allowVariable depth))
    | some (.mark .openBrace) =>
      advance
      return .object (← upTo .closeBrace do
        let field ← name
        expect .colon
        return (field, ← value allowVariable depth))
    | _ => fail

/-- The levels of values: no text nests deeper than its tokens may. -/
def valueDepth : Nat := Token.nestingLimit + 1

/-- Takes directives, with their arguments. The parentheses of arguments may not be empty. -/
def directives : Parser (List Directive) :=
  repeatWhile (accept .atSign) do
    let name ← Parser.name
    let arguments ← do
      if ← accept .openParen then
        someUpTo .closeParen do
          let argument ← Parser.name
          expect .colon
          return (argument, ← value true valueDepth)
      else pure []
    return { name, arguments }

/-- Takes the type of a field or argument with at most `depth` levels of lists. -/
def typeReference : (depth : Nat) → Parser Unit
  | 0 => fail
  | depth + 1 => do
    if ← accept .openBracket then
      typeReference depth
      expect .closeBracket
    else
      discard name
    discard (accept .bang)

/-- Takes the declaration of an argument or of a field of an input type. -/
def inputValue : Parser Unit := do
  description
  discard name
  expect .colon
  typeReference valueDepth
  if ← accept .equals then discard (value false valueDepth)
  discard directives

/-- Takes a field of an object type or an interface. -/
def field : Parser Unit := do
  description
  discard name
  if ← accept .openParen then discard (someUpTo .closeParen inputValue)
  expect .colon
  typeReference valueDepth
  discard directives

/-- Takes a value of an enumeration. -/
def enumerationValue : Parser Unit := do
  description
  discard name
  discard directives

/-- Takes items in braces, if an opening brace is next; tells whether it was. -/
def body (item : Parser Unit) : Parser Bool := do
  if ← accept .openBrace then
    discard (someUpTo .closeBrace item)
    return true
  else
    return false

/-- Takes the interfaces that a type implements; tells whether there are any. -/
def interfaces : Parser Bool := do
  if ← acceptName "implements" then
    discard (accept .ampersand)
    discard (separated .ampersand name)
    return true
  else
    return false

/-- Takes the members of a union; tells whether there are any. -/
def members : Parser Bool := do
  if ← accept .equals then
    discard (accept .bar)
    discard (separated .bar name)
    return true
  else
    return false

/-- The kind of type that a word defines. -/
def kind? : String → Option TypeKind
  | "scalar" => some .scalar
  | "type" => some .object
  | "interface" => some .interface
  | "union" => some .union
  | "enum" => some .enumeration
  | "input" => some .input
  | _ => none

/-- Takes a type, from the word for its kind on. The second result tells whether the text says
anything of the type beyond its name; the interfaces of an interface do not count. -/
def typeHead (kind : TypeKind) : Parser (TypeHead × Bool) := do
  let position ← here
  advance
  let name ← Parser.name
  let implementing ← match kind with
    | .object | .interface => interfaces
    | _ => pure false
  let directives ← Parser.directives
  let embodied ← match kind with
    | .scalar => pure false
    | .object | .interface => body field
    | .union => members
    | .enumeration => body enumerationValue
    | .input => body inputValue
  let head := { kind, name, position, directives }
  return (head, !directives.isEmpty || embodied || (implementing && kind == .object))

/-- The words for the places where a directive may stand. -/
def directiveLocations : List String :=
  ["QUERY", "MUTATION", "SUBSCRIPTION", "FIELD", "FRAGMENT_DEFINITION", "FRAGMENT_SPREAD",
   "INLINE_FRAGMENT", "SCHEMA", "SCALAR", "OBJECT", "FIELD_DEFINITION", "ARGUMENT_DEFINITION",
   "INTERFACE", "UNION", "ENUM", "ENUM_VALUE", "INPUT_OBJECT", "INPUT_FIELD_DEFINITION",
   "VARIABLE_DEFINITION"]

/-- Takes the word for such a place. -/
def directiveLocation : Parser Unit := do
  match ← peek with
  | some (.name text) => if directiveLocations.contains text then advance else fail
  | _ => fail

/-- Takes the definition of a directive. The list of places may be empty, but only where no name
follows. -/
def directiveDefinition : Parser Definition := do
  advance
  expect .atSign
  let name ← Parser.name
  if ← accept .openParen then discard (someUpTo .closeParen inputValue)
  discard (acceptName "repeatable")
  if !(← acceptName "on") then fail
  let barred ← accept .bar
  let named := match ← peek with
    | some (.name _) => true
    | _ => false
  if barred || named then discard (separated .bar directiveLocation)
  return .directive name

/-- Takes the definition of the root operations, each of which may be given once. -/
def schemaDefinition : Parser Definition := do
  let start ← here
  advance
  discard directives
  expect .openBrace
  let operations ← upTo .closeBrace do
    let operation ← name
    expect .colon
    discard name
    return operation
  if operations.all ["query", "mutation", "subscription"].contains && operations.Nodup then
    return .schema
  else
    throw start

/-- Takes a definition for which a description is allowed. -/
def described : Parser Definition := do
  match ← peek with
  | some (.name "directive") => directiveDefinition
  | some (.name word) =>
    match kind? word with
    | some kind => return .type (← typeHead kind).1
    | none => fail
  | _ => fail

/-- Takes an addition to a type, which has to add something. -/
def extension : Parser Definition := do
  advance
  match ← peek with
  | some (.name word) =>
    match kind? word with
    | some kind =>
      let (head, extended) ← typeHead kind
      if extended then return .extension head else throw head.position
    | none => fail
  | _ => fail

/-- Takes a definition. Only types and directives can have a description. -/
def definition : Parser Definition := do
  match ← peek with
  | some (.name "schema") => schemaDefinition
  | some (.name "extend") => extension
  | some (.string _) => advance; described
  | _ => described

/-- Takes a document up to the end of its text. It has at least one definition. -/
def document : Parser Document := do
  let first ← definition
  let others ← repeatWhile (do
    let state ← get
    return !(state.tokens.isEmpty && state.complete)) definition
  return first :: others

end Parser

/-- The document that a text spells, or the place where it goes wrong. -/
def Document.ofText (text : String) : Except Position Document :=
  (Parser.document.run (Tokens.ofText text)).map Prod.fst

end SchemaPolicy.Sdl
