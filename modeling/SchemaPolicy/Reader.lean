/-! Readers: computations that take values off the front of a text, or fail. -/

namespace SchemaPolicy

/-- A computation that takes a value off the front of a text and leaves the rest, or fails. -/
abbrev Reader := StateT (List Char) Option

namespace Reader

/-- The next character, which stays; `none` at the end of the text. -/
def peek : Reader (Option Char) := do return (← get).head?

/-- Takes a character that satisfies `p`. -/
def charWhere (p : Char → Bool) : Reader Char := fun s =>
  match s with
  | [] => none
  | c :: rest => if p c then some (c, rest) else none

/-- Takes a certain character. -/
def char (c : Char) : Reader Unit := discard (charWhere (· == c))

/-- Takes a certain character, if it is next; tells whether it was. -/
def accept (c : Char) : Reader Bool := fun s =>
  match s with
  | [] => some (false, [])
  | d :: rest => if c = d then some (true, rest) else some (false, d :: rest)

/-- Takes a certain text. -/
def text (expected : String) : Reader Unit := expected.toList.forM char

/-- Takes characters as long as they satisfy `p`. -/
def takeWhile (p : Char → Bool) : Reader (List Char) := fun s =>
  some (s.takeWhile p, s.dropWhile p)

/-- Fails if a condition does not hold. -/
def require (condition : Prop) [Decidable condition] : Reader Unit :=
  if condition then return () else failure

/-- Takes items as long as `item` goes on, at most `limit` of them. -/
def repeatUpTo {α : Type} (item : Reader (Option α)) : (limit : Nat) → Reader (List α)
  | 0 => return []
  | limit + 1 => do
    match ← item with
    | none => return []
    | some first => return first :: (← repeatUpTo item limit)

/-- Takes items as long as `item` goes on. Every item takes a character, so the length of the text
bounds their number. -/
def repeatWhile {α : Type} (item : Reader (Option α)) : Reader (List α) := do
  repeatUpTo item ((← get).length + 1)

end Reader

end SchemaPolicy
