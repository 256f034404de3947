import SchemaPolicy.Reader
import SchemaPolicy.Text.Blank
import SchemaPolicy.Text.Digit

/-! The smallest parts of a pattern: gaps, characters and escapes. What a part means depends on the
flags that are set where it stands. Case and classes are known for ASCII only: no tables for the
characters of all scripts are at hand. -/

namespace SchemaPolicy.LogPattern

open Reader

/-- The flags that hold at some place of a pattern. -/
structure Mode where
  /-- Whether the case of letters does not matter. -/
  caseless : Bool := false
  /-- Whether items stand for characters of all scripts, and not for single bytes. -/
  allScripts : Bool := true
  /-- Whether white space and comments separate items. -/
  spaced : Bool := false
deriving DecidableEq, Repr

/-- Whether finding out what an item stands for needs the case of characters of all scripts. -/
def Mode.needsCases (mode : Mode) : Bool := mode.caseless && mode.allScripts

/-- The text without the white space and the comments at its front. A comment goes from a number
sign to the end of the line; `inComment` says that the text starts within one. -/
def dropGap (inComment : Bool) : List Char → List Char
  | [] => []
  | c :: rest =>
    if inComment then dropGap (c != '\n') rest
    else if Text.isBlank c then dropGap false rest
    else if c = '#' then dropGap true rest
    else c :: rest

/-- Takes what separates items, where something can. -/
def gap (mode : Mode) : Reader Unit := modify fun s => if mode.spaced then dropGap false s else s

def anyChar : Reader Char := charWhere fun _ => true

/-- What an escape stands for: a character, a set of them, or a position in the text. -/
inductive Escape where
  | literal (c : Char)
  | set
  | position
deriving DecidableEq, Repr

/-- Takes hexadecimal digits, as many as `width`, for the character with that code. -/
def code (mode : Mode) (width : Nat) : Reader Char := do
  let digits ← (List.replicate width ()).mapM fun _ => do
    gap mode
    charWhere fun c => (Text.hexDigit? c).isSome
  match Text.charOfDigits? digits with
  | some c => return c
  | none => failure

/-- Takes what stands behind a backslash. Two hexadecimal digits are those of a byte, where items
stand for bytes, and no byte beyond ASCII is a character on its own. -/
def escape (mode : Mode) : Reader Escape := do
  match ← anyChar with
  | 'x' =>
    let c ← code mode 2
    require (mode.allScripts ∨ c.toNat < 0x80)
    return .literal c
  | 'u' => return .literal (← code mode 4)
  | 'U' => return .literal (← code mode 8)
  | 'a' => return .literal '\x07'
  | 'f' => return .literal '\x0c'
  | 'n' => return .literal '\n'
  | 'r' => return .literal '\r'
  | 't' => return .literal '\t'
  | 'v' => return .literal '\x0b'
  | 'd' | 's' | 'w' =>
    require (!mode.allScripts)
    return .set
  | 'b' | 'B' | '<' | '>' =>
    require (!mode.allScripts)
    return .position
  | 'A' | 'z' => return .position
  | c =>
    require (c.toNat < 0x80 ∧ !c.isAlphanum)
    return .literal c

/-- How deep something nests that has parts: no deeper than its only part, and one level deeper than
the deepest of several. -/
def depthOfParts : List Nat → Nat
  | [] => 0
  | [part] => part
  | parts => parts.foldl max 0 + 1

end SchemaPolicy.LogPattern
