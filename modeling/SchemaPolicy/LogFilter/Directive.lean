import SchemaPolicy.Event
import SchemaPolicy.LogFilter.Pattern.Basic
import SchemaPolicy.Text.Blank
import SchemaPolicy.Text.Bytes

/-! Directives of a log filter: which events from which parts of the program are logged. -/

namespace SchemaPolicy

/-- What is asked of a field: that it is there or, of a span, that its value matches a pattern. -/
structure LogField where
  name : String
  pattern? : Option String := none
deriving DecidableEq, Repr

/-- The least level that is logged of certain events. -/
structure LogDirective where
  /-- The start of the names of the parts of the program that report the events. -/
  target? : Option String := none
  span? : Option String := none
  field? : Option LogField := none
  /-- The least level, or none to log nothing. -/
  least? : Option Level := some .trace
deriving DecidableEq, Repr

/-- Why a word is no directive. A malformed one can be passed over; a broken character cannot. -/
inductive LogDirective.Fault where
  | malformed
  /-- A part of the word would start or end inside a character. -/
  | brokenCharacter
deriving DecidableEq, Repr

/-- The field that a text asks for: a name and, after an equals sign, a pattern. A second equals
sign ends the pattern. -/
def LogField.ofText (text : String) : Except LogDirective.Fault LogField := do
  let (name, rest) := text.toList.span (· ≠ '=')
  if text = "" then throw .malformed
  match rest with
  | [] => return { name := String.ofList name }
  | _ :: rest =>
    let pattern := String.ofList (rest.takeWhile (· ≠ '='))
    unless LogPattern.isPattern pattern do throw .malformed
    return { name := String.ofList name, pattern? := some pattern }

namespace LogDirective

/-- The words for the least level, in the order of the numbers that stand for them too. -/
def levelWords : List (String × Option Level) :=
  [("off", none), ("error", some .error), ("warn", some .warn), ("info", some .info),
    ("debug", some .debug), ("trace", some .trace)]

/-- The least level that a word gives: by its name in any case, or by its place in the list. -/
def leastOfWord? (word : String) : Option (Option Level) :=
  match levelWords.lookup word.toLower with
  | some least => some least
  | none =>
    let digits := match word.toList with
      | '+' :: digits => digits
      | digits => digits
    if digits.isEmpty ∨ !digits.all Char.isDigit then none
    else levelWords[Text.numberOf 10 digits]?.map (·.2)

/-- Whether a directive without brackets in front can start with a character. -/
def isStart (c : Char) : Bool := Text.isAlphanumeric c || c ∈ ['-', ':', '_', '[']

/-- The part of a word between two positions in bytes. -/
def cut (word : List Char) (start : Nat) (stop? : Option Nat) : Except Fault String :=
  match Text.slice? word start stop? with
  | some part => return String.ofList part
  | none => throw .brokenCharacter

/-- The directive with the level that stands at a position, up to the end of the word; all levels,
if nothing stands there. -/
def leveled (directive : LogDirective) (word : List Char) (start : Nat) :
    Except Fault LogDirective := do
  let level ← cut word start none
  if level = "" then return { directive with least? := some .trace }
  match leastOfWord? level with
  | some least? => return { directive with least? }
  | none => throw .malformed

/-- The directive with the level that may stand behind its brackets. -/
def closed (directive : LogDirective) (word : List Char) (start : Nat) (rest : List Char) :
    Except Fault LogDirective :=
  match rest with
  | [] => return directive
  | '=' :: _ => directive.leveled word (start + 1)
  | _ => throw .malformed

/-- The directive with what stands in brackets: the name of a span, and in braces a field. -/
def bracketed (directive : LogDirective) (word : List Char) (start : Nat) (rest : List Char) :
    Except Fault LogDirective := do
  let (name, rest) := rest.span fun c => c ≠ ']' && c ≠ '\x7b'
  let stop := start + Text.byteSize name
  match rest with
  | [] => throw .malformed
  | ']' :: rest =>
    let span ← cut word start (some stop)
    closed { directive with span? := some span } word (stop + 1) rest
  | _ :: rest =>
    let span ← cut word start (some stop)
    let span? := if span = "" then none else some span
    let (field, rest) := rest.span (· ≠ '\x7d')
    match rest with
    | [] => throw .malformed
    | _ :: rest =>
      let start := stop + 1
      let stop := start + Text.byteSize field
      let field ← LogField.ofText (← cut word start (some stop))
      match rest with
      | ']' :: rest =>
        closed { directive with span?, field? := some field } word (stop + 2) rest
      | _ => throw .malformed

/-- The directive that a word stands for: a level, or a target and what is asked of its events. The
marks in the word are found without the blanks around it, but its parts are cut from the whole word
at the positions that the marks then have. -/
def ofWord (word : String) : Except Fault LogDirective := do
  let whole := word.toList
  match Text.trim whole with
  | [] => throw .malformed
  | '[' :: rest => bracketed {} whole 1 rest
  | c :: rest =>
    unless isStart c do throw .malformed
    let (name, rest) := (c :: rest).span fun c => c ≠ '=' && c ≠ '['
    let stop := Text.byteSize name
    match rest with
    | [] =>
      match leastOfWord? word with
      | some least? => return { least? }
      | none => return { target? := some word }
    | mark :: rest =>
      let target ← cut whole 0 (some stop)
      let directive : LogDirective := { target? := some target }
      if mark = '=' then directive.leveled whole (stop + 1)
      else directive.bracketed whole (stop + 1) rest

/-- Whether a directive is about an event. No spans are ever open, so that one that asks for a span,
or for the value of a field in a span, is about no event. -/
def covers (directive : LogDirective) (event : Event) : Bool :=
  directive.target?.all (·.toList.isPrefixOf event.target.toList) && directive.span?.isNone &&
    directive.field?.all fun field => field.pattern?.isNone && field.name ∈ event.fields

/-- Whether a directive lets a level through. -/
def admits (directive : LogDirective) (level : Level) : Bool :=
  directive.least?.any (·.rank ≤ level.rank)

/-- How telling a directive is: the length of its target counts before its field. -/
def weight (directive : LogDirective) : Nat :=
  2 * directive.target?.elim 0 String.length + if directive.field?.isSome then 1 else 0

end LogDirective

end SchemaPolicy
