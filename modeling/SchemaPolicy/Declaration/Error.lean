import SchemaPolicy.Collection.Pattern

/-! Mistakes in declarations, and how they are told to the author of a schema. -/

namespace SchemaPolicy

/-- The kinds of value that arguments take. -/
inductive ValueKind where
  | text
  /-- A bare word; a string counts as one. -/
  | word
  | truth
deriving DecidableEq, Repr

/-- The kind in words. -/
def ValueKind.phrase : ValueKind → String
  | text => "a string"
  | word => "an enum value"
  | truth => "a boolean"

/-- The arguments that every declaration needs. -/
inductive RequiredArgument where
  | name
  | pattern
deriving DecidableEq, Repr

/-- The argument by its name. -/
def RequiredArgument.argument : RequiredArgument → String
  | name => "name"
  | pattern => "type"

/-- What can be wrong with a declaration. -/
inductive AuthoringMistake where
  | missingArgument (argument : RequiredArgument)
  | emptyName
  | invalidName (name : String)
  | unknownAccessPattern (word : String)
  | missingPermission (pattern : AccessPattern) (permission : Permission)
  | invalidPermission (permission : Permission)
  | unknownArgument (argument : String)
  | repeatedArgument (argument : String)
  | invalidArgument (argument : String) (expected : ValueKind)
  | repeatedDirective
  | directiveOnExtension
deriving DecidableEq, Repr

/-- A mistake, and the type whose declaration has it. -/
structure AuthoringError where
  typeName : String
  mistake : AuthoringMistake
deriving DecidableEq, Repr

namespace AuthoringMistake

/-- The mistake in words. -/
def phrase : AuthoringMistake → String
  | missingArgument argument => s!"@collection is missing required argument `{argument.argument}`"
  | emptyName => "collection name must not be empty"
  | invalidName name =>
    s!"collection name `{name}` must be one path segment without `/`, braces or whitespace"
  | unknownAccessPattern word =>
    s!"unknown access pattern `{word}`, expected: " ++
      ", ".intercalate (AccessPattern.all.map AccessPattern.spelling)
  | missingPermission pattern permission =>
    s!"access pattern {pattern.spelling} requires a non-empty `{permission.argument}`"
  | invalidPermission permission =>
    s!"`{permission.argument}` must not contain quotes, backslashes or line breaks"
  | unknownArgument argument => s!"unknown @collection argument `{argument}`"
  | repeatedArgument argument => s!"@collection argument `{argument}` is given more than once"
  | invalidArgument argument expected =>
    s!"@collection argument `{argument}` must be {expected.phrase}"
  | repeatedDirective => "@collection may only be applied once"
  | directiveOnExtension => "@collection must be on the type definition, not an extension"

/-- The code by which diagnostics refer to a mistake. -/
def code : AuthoringMistake → String
  | missingArgument _ => "tenant_rules::missing_argument"
  | emptyName => "tenant_rules::empty_name"
  | invalidName _ => "tenant_rules::invalid_name"
  | unknownAccessPattern _ => "tenant_rules::unknown_access_pattern"
  | missingPermission .. => "tenant_rules::missing_permission"
  | invalidPermission _ => "tenant_rules::invalid_permission"
  | unknownArgument _ => "tenant_rules::unknown_argument"
  | repeatedArgument _ => "tenant_rules::repeated_argument"
  | invalidArgument .. => "tenant_rules::invalid_argument"
  | repeatedDirective => "tenant_rules::repeated_directive"
  | directiveOnExtension => "tenant_rules::directive_on_extension"

end AuthoringMistake

namespace AuthoringError

/-- The error in words, with the type in front. -/
def message (error : AuthoringError) : String :=
  s!"type `{error.typeName}`: {error.mistake.phrase}"

/-- What the author can do about the error, where there is one thing to do. -/
def help? (error : AuthoringError) : Option String :=
  match error.mistake with
  | .missingPermission _ permission =>
    some s!"add `{permission.argument}: \"...\"` to the @collection directive"
  | .directiveOnExtension => some s!"move the directive to the `type {error.typeName}` definition"
  | _ => none

end AuthoringError

end SchemaPolicy
