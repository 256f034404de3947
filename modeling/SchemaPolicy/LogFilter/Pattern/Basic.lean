import SchemaPolicy.LogFilter.Pattern.Set
import SchemaPolicy.Text.Alphanumeric

/-! Patterns for the values of fields: numbers, or else regular expressions. Nothing here is ever
matched; what counts is which texts are patterns. -/

namespace SchemaPolicy.LogPattern

open Reader

/-- What counts of an item: how deep it nests, and whether it can be repeated. -/
structure Item where
  depth : Nat := 0
  repeatable : Bool := true
deriving DecidableEq, Repr

/-- A group of which a part has been read. -/
structure OpenGroup where
  mode : Mode := {}
  /-- The items of the current branch, the last first. -/
  items : List Item := []
  /-- How deep the branches before it nest. -/
  branches : List Nat := []
deriving DecidableEq, Repr

namespace OpenGroup

/-- Adds an item to the current branch. -/
def add (group : OpenGroup) (item : Item) : OpenGroup :=
  { group with items := item :: group.items }

/-- How deep the current branch nests. -/
def branchDepth (group : OpenGroup) : Nat := depthOfParts (group.items.map Item.depth)

/-- Ends the current branch and starts another one. -/
def branch (group : OpenGroup) : OpenGroup :=
  { group with items := [], branches := group.branchDepth :: group.branches }

/-- How deep all branches of a group nest. -/
def depth (group : OpenGroup) : Nat := depthOfParts (group.branchDepth :: group.branches)

end OpenGroup

/-- How far a pattern has been read. The pattern as a whole counts as a group. -/
structure Progress where
  current : OpenGroup := {}
  /-- The groups around the current one, the innermost first. -/
  outer : List OpenGroup := []
  names : List (List Char) := []
deriving DecidableEq, Repr

namespace Progress

/-- Adds an item to the current group. -/
def add (progress : Progress) (item : Item) : Progress :=
  { progress with current := progress.current.add item }

/-- Opens a group in which a mode holds. -/
def enter (progress : Progress) (mode : Mode) : Progress :=
  { progress with current := { mode }, outer := progress.current :: progress.outer }

/-- Closes the current group, which becomes an item of the one around it. The pattern as a whole
cannot be closed. -/
def leave? (progress : Progress) : Option Progress :=
  match progress.outer with
  | [] => none
  | around :: outer =>
    some { progress with current := around.add { depth := progress.current.depth + 1 }, outer }

/-- The last item is repeated. -/
def repeated? (progress : Progress) : Option Progress :=
  match progress.current.items with
  | [] => none
  | item :: items =>
    if item.repeatable then
      some { progress with
        current := { progress.current with items := { depth := item.depth + 1 } :: items } }
    else none

/-- Takes the name of a group, up to the bracket behind it. No two groups may share one. -/
def named (progress : Progress) : Reader Progress := do
  let name ← takeWhile (· != '>')
  char '>'
  require (name.head?.any fun c => c == '_' || Text.isAlphabetic c)
  require (name.all fun c => Text.isAlphanumeric c || c ∈ ['_', '.', '[', ']'])
  require (name ∉ progress.names)
  return { progress.enter progress.current.mode with names := name :: progress.names }

/-- The flags of a pattern, and the mark behind which flags are unset. -/
def flagMarks : List Char := ['i', 'm', 's', 'U', 'u', 'R', 'x', '-']

/-- Takes flags, which hold for a group or for the rest of one. -/
def flagged (progress : Progress) : Reader Progress := do
  let marks ← takeWhile fun c => c != ':' && c != ')'
  require (marks.all (· ∈ flagMarks))
  require (marks.Nodup ∧ marks.getLast? ≠ some '-')
  let on := marks.takeWhile (· != '-')
  let flag := fun mark before => if mark ∈ marks then decide (mark ∈ on) else before
  let mode := progress.current.mode
  let mode : Mode :=
    { caseless := flag 'i' mode.caseless
      allScripts := flag 'u' mode.allScripts
      spaced := flag 'x' mode.spaced }
  if ← accept ':' then return progress.enter mode
  char ')'
  require (marks ≠ [])
  return { progress with current := { progress.current.add { repeatable := false } with mode } }

/-- Takes what may stand behind the parenthesis that opens a group: a name, flags, or nothing. -/
def group (progress : Progress) : Reader Progress := do
  gap progress.current.mode
  match ← get with
  | '?' :: 'P' :: '<' :: rest | '?' :: '<' :: rest =>
    set rest
    progress.named
  | '?' :: rest =>
    set rest
    progress.flagged
  | _ => return progress.enter progress.current.mode

/-- Takes an item that is no group: a character, a set or an escape. -/
def item (mode : Mode) : Reader Item := do
  match ← anyChar with
  | '[' => return { depth := ← bracketedSet mode }
  | '.' =>
    require mode.allScripts
    return {}
  | '^' | '$' => return {}
  | '\\' =>
    if let .literal _ ← escape mode then require (!mode.needsCases)
    return {}
  | c =>
    require (c ≠ '\x7b' ∧ !mode.needsCases)
    return {}

/-- How deep a pattern may nest. -/
def depthLimit : Nat := 250

/-- Takes the rest of a pattern; every round takes a character, so `limit` bounds their number. -/
def rest : (limit : Nat) → Progress → Reader Unit
  | 0, _ => failure
  | limit + 1, progress => do
    gap progress.current.mode
    match ← get with
    | [] => require (progress.outer = [] ∧ progress.current.depth ≤ depthLimit)
    | '(' :: behind =>
      set behind
      rest limit (← progress.group)
    | ')' :: behind =>
      set behind
      rest limit (← (progress.leave? : Option Progress))
    | '|' :: behind =>
      set behind
      rest limit { progress with current := progress.current.branch }
    | '?' :: behind | '*' :: behind | '+' :: behind =>
      set behind
      let progress ← (progress.repeated? : Option Progress)
      discard (accept '?')
      rest limit progress
    | _ => rest limit (progress.add (← item progress.current.mode))

end Progress

/-- Takes a number behind a plus sign; of all numbers only such a one is no regular expression. -/
def positiveNumber : Reader Unit := do
  char '+'
  if String.ofList ((← get).map Char.toLower) ∈ ["inf", "infinity", "nan"] then set ([] : List Char)
  else
    let whole ← takeWhile Char.isDigit
    let fraction ← if ← accept '.' then takeWhile Char.isDigit else pure []
    require (whole ≠ [] ∨ fraction ≠ [])
    let mark ← takeWhile fun c => c == 'e' || c == 'E'
    if mark ≠ [] then
      require (mark.length = 1)
      unless ← accept '-' do discard (accept '+')
      require ((← takeWhile Char.isDigit) ≠ [])
    require ((← get) = [])

/-- Whether a text is a pattern. -/
def isPattern (text : String) : Bool :=
  let s := text.toList
  (positiveNumber.run s).isSome || ((Progress.rest (s.length + 1) {}).run s).isSome

end SchemaPolicy.LogPattern
