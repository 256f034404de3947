import SchemaPolicy.Declaration.Error
import SchemaPolicy.Sdl.Document

/-! Declarations: the arguments of one directive that declares a collection. Their values are
checked for their kind only; which of them are needed depends on the access pattern. -/

namespace SchemaPolicy

/-- The arguments that a declaration gives; one with the value null counts as absent. -/
structure Declaration where
  typeName : String
  name? : Option String := none
  /-- The word for the access pattern. -/
  pattern? : Option String := none
  permissions : Permissions (Option String) := ⟨none, none, none, none⟩
  switches : Switches (Option Bool) := ⟨none, none, none⟩
deriving DecidableEq, Repr

namespace Declaration

/-- The arguments that a declaration knows. -/
inductive Parameter where
  | name
  | pattern
  | permission (permission : Permission)
  | switch (switch : Switch)
deriving DecidableEq, Repr

namespace Parameter

def all : List Parameter :=
  [name, pattern, permission .read, permission .write, permission .update, permission .delete,
   switch .delete, switch .update, switch .publicRead]

/-- The argument that gives a parameter. -/
def argument : Parameter → String
  | name => RequiredArgument.name.argument
  | pattern => RequiredArgument.pattern.argument
  | permission p => p.argument
  | switch s => s.argument

/-- The parameter that an argument gives. -/
def ofArgument? (argument : String) : Option Parameter := all.find? (·.argument = argument)

/-- The kind of value that a parameter takes. -/
def kind : Parameter → ValueKind
  | name => .text
  | pattern => .word
  | permission _ => .text
  | switch _ => .truth

theorem ofArgument?_eq_some_iff {argument : String} {p : Parameter} :
    ofArgument? argument = some p ↔ argument = p.argument := by
  constructor
  · intro h
    have := List.find?_some h
    simp_all
  · rintro rfl
    rcases p with _ | _ | p | s
    · decide
    · decide
    · cases p <;> decide
    · cases s <;> decide

end Parameter

/-- A parameter together with a value of its kind. -/
inductive Setting where
  | name (text : String)
  | pattern (word : String)
  | permission (permission : Permission) (text : String)
  | switch (switch : Switch) (value : Bool)
deriving DecidableEq, Repr

/-- The setting that a value makes of a parameter, if it is of the right kind. -/
def Parameter.setting? : Parameter → Sdl.Value → Option Setting
  | .name, .string text => some (.name text)
  | .pattern, .word word => some (.pattern word)
  | .pattern, .string word => some (.pattern word)
  | .permission p, .string text => some (.permission p text)
  | .switch s, .boolean value => some (.switch s value)
  | _, _ => none

/-- Whether a declaration already has a value for a parameter. -/
def gives (declaration : Declaration) : Parameter → Bool
  | .name => declaration.name?.isSome
  | .pattern => declaration.pattern?.isSome
  | .permission p => (declaration.permissions.get p).isSome
  | .switch s => (declaration.switches.get s).isSome

/-- The declaration with one more setting. -/
def add (declaration : Declaration) : Setting → Declaration
  | .name text => { declaration with name? := some text }
  | .pattern word => { declaration with pattern? := some word }
  | .permission p text =>
    { declaration with permissions := declaration.permissions.set p (some text) }
  | .switch s value =>
    { declaration with switches := declaration.switches.set s (some value) }

/-- Reads one more argument. A value of the wrong kind is a mistake before a repetition is. -/
def read (declaration : Declaration) (argument : Sdl.Argument) :
    Except AuthoringMistake Declaration :=
  match argument with
  | (_, .null) => .ok declaration
  | (word, value) =>
    match Parameter.ofArgument? word with
    | none => .error (.unknownArgument word)
    | some p =>
      match p.setting? value with
      | none => .error (.invalidArgument word p.kind)
      | some setting =>
        if declaration.gives p then .error (.repeatedArgument word)
        else .ok (declaration.add setting)

/-- The declaration that the arguments of a directive on a type make, or the first mistake. -/
def ofArguments (typeName : String) (arguments : List Sdl.Argument) :
    Except AuthoringError Declaration :=
  (arguments.foldlM read { typeName }).mapError (⟨typeName, ·⟩)

end Declaration

end SchemaPolicy
