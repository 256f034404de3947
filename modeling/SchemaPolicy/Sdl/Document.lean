/-! Schema documents: the types that a schema defines or extends, and the directives on them. The
bodies of types (fields, members, values) are no part of a document, since no rule depends on
them. -/

namespace SchemaPolicy.Sdl

/-- A place in a text; lines and columns count from 1. -/
structure Position where
  line : Nat := 1
  column : Nat := 1
deriving DecidableEq, Repr

/-- The value of an argument. -/
inductive Value where
  | variable (name : String)
  | int (value : Int)
  /-- A number with a fraction or an exponent, as it is written. -/
  | float (text : String)
  | string (text : String)
  | boolean (value : Bool)
  | null
  /-- Any other bare name. -/
  | word (name : String)
  | list (items : List Value)
  | object (fields : List (String × Value))
deriving Repr

/-- An argument: its name and its value. -/
abbrev Argument := String × Value

/-- A directive as it stands on a type. -/
structure Directive where
  name : String
  arguments : List Argument
deriving Repr

/-- The kinds of type. -/
inductive TypeKind where
  | scalar
  | object
  | interface
  | union
  | enumeration
  | input
deriving DecidableEq, Repr

/-- The head of a type: its place is that of the word for its kind. -/
structure TypeHead where
  kind : TypeKind
  name : String
  position : Position
  directives : List Directive
deriving Repr

/-- A definition in a document. Of a type only the head is kept. -/
inductive Definition where
  | schema
  | directive (name : String)
  | type (head : TypeHead)
  /-- An addition to a type that is defined elsewhere. -/
  | extension (head : TypeHead)
deriving Repr

/-- A document is the list of its definitions, in order. -/
abbrev Document := List Definition

end SchemaPolicy.Sdl
