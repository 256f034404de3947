import SchemaPolicy.Declaration.Basic
import SchemaPolicy.Collection.Basic
import SchemaPolicy.Text.Blank

/-! From declarations to descriptors of collections. A declaration is checked in a fixed order, and
arguments that its access pattern does not use are not looked at. -/

namespace SchemaPolicy

/-- Whether a character can stand in a segment of a path. -/
def isSegmentChar (c : Char) : Bool := !(c == '/' || c == '\x7b' || c == '\x7d' || Text.isBlank c)

/-- A name is one segment of a path when it has no slash, no brace and no white space. -/
def PathSegment (name : String) : Prop := ∀ c ∈ name.toList, isSegmentChar c = true

instance : DecidablePred PathSegment := fun name =>
  decidable_of_iff (name.toList.all isSegmentChar = true) List.all_eq_true

/-- Whether a character can stand between single quotes as it is. -/
def isQuotableChar (c : Char) : Bool := !(c == '\'' || c == '\\' || c == '\n' || c == '\r')

/-- A text can stand between single quotes when it has no quote, no backslash and no line break. -/
def Quotable (text : String) : Prop := ∀ c ∈ text.toList, isQuotableChar c = true

instance : DecidablePred Quotable := fun text =>
  decidable_of_iff (text.toList.all isQuotableChar = true) List.all_eq_true

namespace Declaration

/-- The name of the collection, or the first mistake in it: it is missing, blank or no segment. -/
def checkedName (declaration : Declaration) : Except AuthoringMistake String :=
  match declaration.name? with
  | none => .error (.missingArgument .name)
  | some name =>
    if Text.Blank name.toList then .error .emptyName
    else if PathSegment name then .ok name
    else .error (.invalidName name)

/-- The access pattern, or the mistake that it is missing or unknown. -/
def checkedPattern (declaration : Declaration) : Except AuthoringMistake AccessPattern :=
  match declaration.pattern? with
  | none => .error (.missingArgument .pattern)
  | some word =>
    match AccessPattern.ofSpelling? word with
    | none => .error (.unknownAccessPattern word)
    | some pattern => .ok pattern

/-- A permission that the access pattern needs, or the first mistake in it. A blank one counts as
missing. -/
def checkedPermission (declaration : Declaration) (pattern : AccessPattern)
    (permission : Permission) : Except AuthoringMistake String :=
  match declaration.permissions.get permission with
  | none => .error (.missingPermission pattern permission)
  | some text =>
    if Text.Blank text.toList then .error (.missingPermission pattern permission)
    else if Quotable text then .ok text
    else .error (.invalidPermission permission)

/-- The position of a switch: the one given, or its default. -/
def position (declaration : Declaration) (switch : Switch) : Bool :=
  (declaration.switches.get switch).getD switch.byDefault

/-- The protection for an access pattern. Only the settings that the pattern uses are looked at. -/
def checkedProtection (declaration : Declaration) (pattern : AccessPattern) :
    Except AuthoringMistake Protection := do
  match pattern with
  | .indexedByTenant =>
    let read ← declaration.checkedPermission pattern .read
    let write ← declaration.checkedPermission pattern .write
    let update ← declaration.checkedPermission pattern .update
    let delete ← declaration.checkedPermission pattern .delete
    return .indexedByTenant { read, write, update, delete }
      { publicRead := declaration.position .publicRead
        update := declaration.position .update
        delete := declaration.position .delete }
  | .docPerTenant =>
    let read ← declaration.checkedPermission pattern .read
    let write ← declaration.checkedPermission pattern .write
    return .docPerTenant read write
  | .docPerUser => return .docPerUser

/-- The collection that a declaration declares, or the first mistake. -/
def checked (declaration : Declaration) : Except AuthoringMistake Descriptor := do
  let name ← declaration.checkedName
  let pattern ← declaration.checkedPattern
  let protection ← declaration.checkedProtection pattern
  return { typeName := declaration.typeName, name, protection }

/-- The collection that a declaration declares, or the first mistake and the type that has it. -/
def descriptor (declaration : Declaration) : Except AuthoringError Descriptor :=
  declaration.checked.mapError (⟨declaration.typeName, ·⟩)

end Declaration

end SchemaPolicy
