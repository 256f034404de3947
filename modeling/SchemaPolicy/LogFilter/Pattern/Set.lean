import SchemaPolicy.LogFilter.Pattern.Token

/-! Sets of characters in brackets. A reader gives how deep the sets nest in each other. -/

namespace SchemaPolicy.LogPattern

open Reader

/-- The names of the sets that can be given by name within a set. -/
def setNames : List String :=
  ["alnum", "alpha", "ascii", "blank", "cntrl", "digit", "graph", "lower", "print", "punct",
    "space", "upper", "word", "xdigit"]

/-- Whether a character can be a member of a set: none where cases are needed, and only one of ASCII
where items stand for bytes. -/
def Mode.admitsMember (mode : Mode) (c : Char) : Bool :=
  !mode.needsCases && (mode.allScripts || c.toNat < 0x80)

/-- Takes a named set in brackets, if there is one; tells whether it did. -/
def namedSet (mode : Mode) : Reader Bool := fun s =>
  match s with
  | '[' :: ':' :: rest =>
    let (negated, rest) := match rest with
      | '^' :: rest => (true, rest)
      | rest => (false, rest)
    match rest.span (· ≠ ':') with
    | (name, ':' :: ']' :: behind) =>
      if String.ofList name ∉ setNames then some (false, s)
      else if mode.needsCases || negated && !mode.allScripts then none
      else some (true, behind)
    | _ => some (false, s)
  | _ => some (false, s)

/-- A set of which a part has been read: how deep its members nest since the last operator, and what
stands before that. -/
structure OpenSet where
  members : List Nat := []
  left? : Option Nat := none
deriving DecidableEq, Repr

namespace OpenSet

/-- Adds a member that nests this deep. -/
def add (set : OpenSet) (depth : Nat) : OpenSet := { set with members := depth :: set.members }

/-- How deep the members nest. An operator is one level above both its sides. -/
def depth (set : OpenSet) : Nat :=
  let members := depthOfParts set.members
  match set.left? with
  | none => members
  | some left => max left members + 1

/-- What comes behind an operator: the members so far, and what stood before them, are its left
side. -/
def split (set : OpenSet) : OpenSet := { left? := some set.depth }

end OpenSet

/-- Takes what stands behind the bracket that opens a set. Only at the front does a dash always, and
a closing bracket ever, stand for itself. -/
def setOpening (mode : Mode) : Reader OpenSet := do
  gap mode
  if ← accept '^' then
    require mode.allScripts
    gap mode
  let dashes ← repeatWhile do
    if ← accept '-' then
      gap mode
      return some ()
    else return none
  let bracket ← if dashes.isEmpty then accept ']' else pure false
  require (mode.admitsMember '-' ∨ (dashes.isEmpty ∧ !bracket))
  return { members := List.replicate (if bracket then 1 else dashes.length) 0 }

/-- Takes a member of a set: a character, or nothing for the set that an escape stands for. -/
def setMember (mode : Mode) : Reader (Option Char) := do
  match ← anyChar with
  | '\\' =>
    match ← escape mode with
    | .literal c =>
      require (mode.admitsMember c)
      return some c
    | .set => return none
    | .position => failure
  | c =>
    require (mode.admitsMember c)
    return some c

/-- The next character that is white space nowhere and starts no comment. -/
def peekBeyond (inComment : Bool) : List Char → Option Char
  | [] => none
  | c :: rest =>
    if Text.isBlank c then peekBeyond inComment rest
    else if c = '#' ∧ !inComment then peekBeyond true rest
    else some c

/-- Takes a member of a set, or a range of characters. A dash before a closing bracket, or before
another dash, makes no range. -/
def setRange (mode : Mode) : Reader Unit := do
  let first? ← setMember mode
  gap mode
  match ← get with
  | [] => failure
  | '-' :: rest =>
    let next? := if mode.spaced then peekBeyond false rest else rest.head?
    unless next? = some ']' ∨ next? = some '-' do
      set rest
      gap mode
      match first?, ← setMember mode with
      | some first, some last => require (first ≤ last)
      | _, _ => failure
  | _ => return ()

/-- Takes the rest of a set, of which `current` has been read, and of the sets around it. Every
round takes a character, so `limit` bounds their number. -/
def setRest (mode : Mode) :
    (limit : Nat) → (current : OpenSet) → (outer : List OpenSet) → Reader Nat
  | 0, _, _ => failure
  | limit + 1, current, outer => do
    gap mode
    match ← get with
    | [] => failure
    | '&' :: '&' :: rest | '-' :: '-' :: rest | '~' :: '~' :: rest =>
      set rest
      setRest mode limit current.split outer
    | ']' :: rest =>
      set rest
      match outer with
      | [] => return current.depth + 1
      | around :: outer => setRest mode limit (around.add (current.depth + 1)) outer
    | '[' :: rest =>
      if ← namedSet mode then setRest mode limit (current.add 0) outer
      else
        set rest
        setRest mode limit (← setOpening mode) (current :: outer)
    | _ =>
      setRange mode
      setRest mode limit (current.add 0) outer

/-- Takes a set behind its opening bracket, up to the closing one. -/
def bracketedSet (mode : Mode) : Reader Nat := do
  let opened ← setOpening mode
  setRest mode ((← get).length + 1) opened []

end SchemaPolicy.LogPattern
