/-! The bytes that a text takes in UTF-8, and parts of it that are cut out by their positions in
bytes. -/

namespace SchemaPolicy.Text

/-- The number of bytes of a text. -/
def byteSize : List Char → Nat
  | [] => 0
  | c :: rest => c.utf8Size + byteSize rest

/-- The first `n` bytes of a text and the others; nothing if the text is shorter, or is cut inside
a character. -/
def splitAtByte? : Nat → List Char → Option (List Char × List Char)
  | 0, s => some ([], s)
  | _ + 1, [] => none
  | n + 1, c :: rest =>
    if c.utf8Size ≤ n + 1 then
      (splitAtByte? (n + 1 - c.utf8Size) rest).map fun parts => (c :: parts.1, parts.2)
    else none

/-- The text from one position on up to another one, or to its end. -/
def slice? (s : List Char) (start : Nat) (stop? : Option Nat) : Option (List Char) := do
  let (_, behind) ← splitAtByte? start s
  match stop? with
  | none => return behind
  | some stop => return (← splitAtByte? (stop - start) behind).1

@[simp] theorem byteSize_append (s t : List Char) :
    byteSize (s ++ t) = byteSize s + byteSize t := by
  induction s with
  | nil => simp [byteSize]
  | cons c s ih => simp [byteSize, ih, Nat.add_assoc]

end SchemaPolicy.Text
