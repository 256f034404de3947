import SchemaPolicy.Decimal.Shortest
import SchemaPolicy.Text.Shown
import SchemaPolicy.Toml.Parser

/-! Values of a TOML document that are not what a reader expects. -/

namespace SchemaPolicy

/-- What a reader can expect of a value. -/
inductive Expectation where
  | text
  | path
  | sequence
  | outputSettings
  | schemaSettings
  | extraRule
deriving DecidableEq, Repr

/-- The expectation in words. -/
def Expectation.phrase : Expectation → String
  | text => "a string"
  | path => "path string"
  | sequence => "a sequence"
  | outputSettings => "struct OutputConfig"
  | schemaSettings => "struct SchemaConfig"
  | extraRule => "struct ExtraRuleDto"

/-- A value, or a table, that is not what its reader expects. -/
inductive Mismatch where
  | wrongType (found : Toml.Value) (expected : Expectation)
  | missingKey (key : String)
  /-- A table has a key that its reader does not know. -/
  | unknownKey (key : String) (known : List String)
  /-- An access is neither a boolean nor a string. -/
  | noAccess
  /-- An array in place of a table is empty. -/
  | tooShort (expected : Expectation) (length : Nat)
deriving Repr

/-- A value in words: its type and, if it is a plain one, its content. -/
def Toml.Value.phrase : Toml.Value → String
  | .string text => "string " ++ Text.shown text
  | .integer value => s!"integer `{value}`"
  | .float value => s!"floating point `{Decimal.floatText value}`"
  | .boolean value => s!"boolean `{value}`"
  | .array _ => "sequence"
  | .dateTime | .table _ => "map"

/-- The mismatch in words. -/
def Mismatch.message : Mismatch → String
  | wrongType found expected => s!"invalid type: {found.phrase}, expected {expected.phrase}"
  | missingKey key => s!"missing field `{key}`"
  | unknownKey key known =>
    s!"unknown field `{key}`, expected one of " ++
      ", ".intercalate (known.map fun name => "`" ++ name ++ "`")
  | noAccess => "data did not match any variant of untagged enum AccessDto"
  | tooShort expected length =>
    s!"invalid length 0, expected {expected.phrase} with {length} elements"

/-- Why a text is no configuration: it is no document at all, or says what does not fit. -/
inductive ConfigFault where
  | malformed
  | mismatch (mismatch : Mismatch)
deriving Repr

/-- The fault in words. Where a text goes wrong is told by its place. -/
def ConfigFault.message? : ConfigFault → Option String
  | malformed => none
  | mismatch found => some found.message

namespace Toml

/-- The text that a value is. -/
def Value.asText (expected : Expectation) : Value → Except Mismatch String
  | .string text => .ok text
  | found => .error (.wrongType found expected)

/-- The only key of the table that a date or a time counts as. -/
def dateTimeKey : String := "$__toml_private_datetime"

/-- The entries of a table. An array stands for a table too: its items are the values of the keys
in their order, and surplus items are dropped. A date or a time is a table with one key. -/
def Value.asTable (keys : List String) (expected : Expectation) :
    Value → Except Mismatch (List (String × Value))
  | .table entries => .ok entries
  | .array items => .ok (keys.zip items)
  | .dateTime => .ok [(dateTimeKey, .dateTime)]
  | found => .error (.wrongType found expected)

/-- The items of the array that a value is. -/
def Value.asItems : Value → Except Mismatch (List Value)
  | .array items => .ok items
  | found => .error (.wrongType found .sequence)

end Toml

end SchemaPolicy
