import SchemaPolicy.Declaration.Descriptor
import SchemaPolicy.Sdl.Parser
import SchemaPolicy.Traced

/-! Extraction: the collections that the annotated types of a schema declare. -/

namespace SchemaPolicy

/-- Why no collections can be taken from a schema. -/
inductive SchemaError where
  | parse (position : Sdl.Position)
  /-- A type, on this line, has a faulty declaration. -/
  | authoring (line : Nat) (error : AuthoringError)
deriving DecidableEq, Repr

namespace Sdl

/-- The directives with a name among those of a type. -/
def TypeHead.declarations (head : TypeHead) (name : String) : List Directive :=
  head.directives.filter (·.name = name)

/-- The collection that a type declares by the directive called `name`, if it carries one. -/
def TypeHead.descriptor? (head : TypeHead) (name : String) :
    Except AuthoringError (Option Descriptor) :=
  match head.declarations name with
  | [] => .ok none
  | [directive] => do
    let declaration ← Declaration.ofArguments head.name directive.arguments
    return some (← declaration.descriptor)
  | _ => .error ⟨head.name, .repeatedDirective⟩

/-- The collection that a definition declares by the directive called `name`. Additions to types
may not carry it. -/
def Definition.descriptor? (definition : Definition) (name : String) :
    Except SchemaError (Option Descriptor) :=
  match definition with
  | .schema | .directive _ => .ok none
  | .type head => (head.descriptor? name).mapError (.authoring head.position.line)
  | .extension head =>
    if head.declarations name = [] then .ok none
    else .error (.authoring head.position.line ⟨head.name, .directiveOnExtension⟩)

/-- The collections that definitions declare after collections with the names `seen`. A name that
was seen before is reported, and its collection is kept. -/
def extractAfter (name : String) (seen : List String) :
    Document → Traced SchemaError (List Descriptor)
  | [] => return []
  | definition :: others => do
    match ← Traced.ofExcept (definition.descriptor? name) with
    | none => extractAfter name seen others
    | some descriptor =>
      Traced.report (.declared descriptor)
      if descriptor.name ∈ seen then Traced.report (.repeatedName descriptor.name)
      return descriptor :: (← extractAfter name (descriptor.name :: seen) others)

/-- The collections that a document declares by the directive called `name`, in its order. -/
def Document.extract (document : Document) (name : String) :
    Traced SchemaError (List Descriptor) :=
  extractAfter name [] document

end Sdl

/-- The collections that a schema text declares by the directive called `name`. -/
def extract (schema name : String) : Traced SchemaError (List Descriptor) :=
  match Sdl.Document.ofText schema with
  | .error position => Traced.ofExcept (.error (.parse position))
  | .ok document => document.extract name

namespace SchemaError

/-- The code by which diagnostics refer to an error. -/
def code : SchemaError → String
  | parse _ => "tenant_rules::schema_parse"
  | authoring _ error => error.mistake.code

/-- The error in words, with the line of the type. Where a text goes wrong is told by its place. -/
def message? : SchemaError → Option String
  | parse _ => none
  | authoring line error => some s!"{error.message} (line {line})"

/-- What the author can do about the error, where there is one thing to do. -/
def help? : SchemaError → Option String
  | parse _ => none
  | authoring _ error => error.help?

end SchemaError

end SchemaPolicy
