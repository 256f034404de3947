import SchemaPolicy.Toml.Number
import SchemaPolicy.Toml.Quoted
import SchemaPolicy.Toml.Table

/-! Reading a TOML document. The text is first cut into sections, a header and the assignments
below it, and the sections are then put together. -/

namespace SchemaPolicy.Toml

open SchemaPolicy.Reader

namespace Reader

/-- Takes spaces and tabs. -/
def spaces : Reader Unit := discard (takeWhile fun c => c == ' ' || c == '\t')

/-- Takes the end of a line. -/
def newline : Reader Unit := do
  discard (accept '\r')
  char '\n'

/-- Takes a comment up to the end of its line. -/
def comment : Reader Unit := do
  char '#'
  discard (takeWhile Quoted.isPlain)

/-- Takes what may follow on a line: spaces, a comment, and the end of the line or of the text. -/
def restOfLine : Reader Unit := do
  spaces
  if (← peek) == some '#' then comment
  if (← peek).isSome then newline

/-- Takes spaces, ends of lines, and comments with theirs. -/
def gap : Reader Unit := do
  discard <| repeatWhile do
    spaces
    match ← peek with
    | some '#' =>
      comment
      newline
      return some ()
    | some '\n' | some '\r' =>
      newline
      return some ()
    | _ => return none

/-- How many parts a dotted key may have, and how deep arrays and inline tables may nest, is less
than this. -/
def depthLimit : Nat := 80

/-- Whether a character can stand in a key without quotes. -/
def isBare (c : Char) : Bool := c.isAlphanum || c == '-' || c == '_'

/-- Takes a key that is no dotted one, with the spaces around it. -/
def simpleKey : Reader String := do
  spaces
  let key ← match ← peek with
    | some '"' | some '\'' => fun s => Quoted.short s
    | _ => do
      let key ← takeWhile isBare
      require (key ≠ [])
      pure key
  spaces
  return String.ofList key

/-- Takes a key: the parts before its last dot, and the part behind. -/
def key : Reader (List String × String) := do
  let first ← simpleKey
  let others ← repeatWhile do
    if ← accept '.' then return some (← simpleKey) else return none
  require (others.length + 1 < depthLimit)
  return ((first :: others).dropLast, (first :: others).getLast (by simp))

/-- Takes the items of an array behind its opening bracket. The last one may have a comma too. -/
def arrayItems (item : Reader Value) : Reader (List Value) := do
  gap
  let items ← repeatWhile do
    if (← peek) == some ']' then return none
    let value ← item
    gap
    unless (← peek) == some ']' do char ','
    gap
    return some value
  char ']'
  return items

/-- Takes a key, an equals sign and a value. -/
def assignment (value : Reader Value) : Reader (List String × String × Value) := do
  let (path, last) ← key
  char '='
  spaces
  return (path, last, ← value)

/-- Adds the values of assignments to a table, in order. -/
def addAll (assignments : List (List String × String × Value)) (entries : Entries) :
    Option Entries :=
  assignments.foldlM (fun entries (path, last, value) => entries.put path last value) entries

/-- Takes the entries of an inline table behind its opening brace. No comma may stand behind the
last one. -/
def inlineEntries (value : Reader Value) : Reader (List (String × Value)) := do
  spaces
  if ← accept '\x7d' then return []
  let member := do
    let found ← assignment value
    spaces
    return found
  let first ← member
  let others ← repeatWhile do
    if ← accept ',' then return some (← member) else return none
  char '\x7d'
  let entries ← fun s => (addAll (first :: others) []).map (·, s)
  return Node.values entries

/-- Takes a value that is neither an array nor an inline table. -/
def scalar : Reader Value := do
  match ← peek with
  | some '"' | some '\'' => return .string (String.ofList (← fun s => Quoted.any s))
  | some 't' =>
    text "true"
    return .boolean true
  | some 'f' =>
    text "false"
    return .boolean false
  | _ => numeric

/-- Takes a value with at most `depth` levels of arrays and inline tables. -/
def value : (depth : Nat) → Reader Value
  | 0 => scalar
  | depth + 1 => do
    if ← accept '[' then return .array (← arrayItems (value depth))
    if ← accept '\x7b' then return .table (← inlineEntries (value depth))
    scalar

def anyValue : Reader Value := value (depthLimit - 1)

end Reader

/-- What a header opens: a table, or one more table of an array. -/
inductive Opening where
  | table
  | item
deriving DecidableEq, Repr

/-- A header: what it opens, and the key of that. -/
structure Header where
  opening : Opening
  path : List String
  last : String
deriving DecidableEq, Repr

/-- What a line of a document says. -/
inductive Line where
  | header (header : Header)
  | assignment (path : List String) (last : String) (value : Value)
deriving Repr

namespace Reader

/-- Takes a header. Double brackets open a table of an array. -/
def header : Reader Header := do
  char '['
  if ← accept '[' then
    let (path, last) ← key
    text "]]"
    return { opening := .item, path, last }
  else
    let (path, last) ← key
    char ']'
    return { opening := .table, path, last }

/-- Takes a line; `none` stands for one that says nothing. -/
def line : Reader (Option Line) := do
  match ← peek with
  | some '#' | some '\n' | some '\r' =>
    restOfLine
    return none
  | some '[' =>
    let found ← header
    restOfLine
    return some (.header found)
  | _ =>
    let (path, last, value) ← assignment anyValue
    restOfLine
    return some (.assignment path last value)

/-- Takes all lines of a document. A byte order mark may stand in front. -/
def lines : Reader (List Line) := do
  discard (accept '\uFEFF')
  spaces
  let found ← repeatWhile do
    if (← peek).isNone then return none
    let found ← line
    spaces
    return some found
  return found.filterMap id

end Reader

/-- The assignments of a document: those above the first header, and those below each header. -/
def sections : List Line → List (List String × String × Value) ×
    List (Header × List (List String × String × Value))
  | [] => ([], [])
  | .assignment path last value :: others =>
    let (above, below) := sections others
    ((path, last, value) :: above, below)
  | .header header :: others =>
    let (above, below) := sections others
    ([], (header, above) :: below)

/-- Adds to a document what a header opens, filled by the assignments below it. -/
def Header.apply (header : Header) (assignments : List (List String × String × Value))
    (entries : Entries) : Option Entries :=
  let fill := Reader.addAll assignments
  match header.opening with
  | .table => Entries.within (Entries.openTable header.last fill) header.path entries
  | .item => Entries.within (Entries.openItem header.last fill) header.path entries

/-- The table that a text spells, or `none` if the text is no TOML document. -/
def ofText? (text : String) : Option (List (String × Value)) := do
  let (lines, _) ← Reader.lines text.toList
  let (above, below) := sections lines
  let root ← Reader.addAll above []
  let entries ← below.foldlM (fun entries (header, assignments) =>
    header.apply assignments entries) root
  return Node.values entries

end SchemaPolicy.Toml
