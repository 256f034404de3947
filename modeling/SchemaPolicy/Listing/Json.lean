import SchemaPolicy.Collection.Basic
import SchemaPolicy.Text.Lines

/-! The listing of collections as a JSON array of objects, one field a line. -/

namespace SchemaPolicy.Listing

/-- The value of a field of a listed object. -/
inductive FieldValue where
  | text (content : String)
  | flag (flag : Bool)
deriving DecidableEq, Repr

/-- The fields for a protection: the settings that its pattern uses. -/
def protectionFields : Protection → List (String × FieldValue)
  | .docPerUser => []
  | .docPerTenant read write =>
    [(Permission.read.argument, .text read), (Permission.write.argument, .text write)]
  | .indexedByTenant permissions switches =>
    [(Permission.read.argument, .text permissions.read),
      (Permission.write.argument, .text permissions.write),
      (Permission.update.argument, .text permissions.update),
      (Permission.delete.argument, .text permissions.delete),
      (Switch.publicRead.argument, .flag switches.publicRead),
      (Switch.update.argument, .flag switches.update),
      (Switch.delete.argument, .flag switches.delete)]

/-- The fields of a collection, in order. -/
def fields (descriptor : Descriptor) : List (String × FieldValue) :=
  [("typeName", .text descriptor.typeName), ("name", .text descriptor.name),
    ("type", .text descriptor.protection.pattern.spelling)] ++
    protectionFields descriptor.protection

/-- A character as it stands between the quotes of a JSON string. -/
def escapedChar (c : Char) : List Char :=
  match c with
  | '"' => ['\\', '"']
  | '\\' => ['\\', '\\']
  | '\x08' => ['\\', 'b']
  | '\x0c' => ['\\', 'f']
  | '\n' => ['\\', 'n']
  | '\r' => ['\\', 'r']
  | '\t' => ['\\', 't']
  | c =>
    if c.toNat < 0x20 then
      "\\u00".toList ++ [Nat.digitChar (c.toNat / 16), Nat.digitChar (c.toNat % 16)]
    else [c]

/-- A text as a JSON string. -/
def quoted (text : String) : List Char := '"' :: text.toList.flatMap escapedChar ++ ['"']

/-- The text of a value. -/
def FieldValue.render : FieldValue → List Char
  | text content => quoted content
  | flag true => "true".toList
  | flag false => "false".toList

/-- The text of a field, without the comma and the line end behind it. -/
def fieldLine (field : String × FieldValue) : List Char :=
  "    ".toList ++ quoted field.1 ++ ": ".toList ++ field.2.render

/-- The text of the object for a collection. -/
def object (descriptor : Descriptor) : List Char :=
  "  \x7b\n".toList ++ Text.joinWith ",\n".toList ((fields descriptor).map fieldLine) ++
    "\n  \x7d".toList

/-- The listing of collections as JSON, with a line end behind it. -/
def json (descriptors : List Descriptor) : String :=
  match descriptors with
  | [] => "[]\n"
  | descriptors =>
    String.ofList ("[\n".toList ++ Text.joinWith ",\n".toList (descriptors.map object) ++
      "\n]\n".toList)

end SchemaPolicy.Listing
