import SchemaPolicy.Collection.Pattern

/-! Collections of documents, with the settings that their access pattern uses and no others. -/

namespace SchemaPolicy

/-- What guards the documents of a collection: its access pattern, with the settings of that
pattern. -/
inductive Protection where
  | indexedByTenant (permissions : Permissions String) (switches : Switches Bool)
  | docPerTenant (read write : String)
  | docPerUser
deriving DecidableEq, Repr

/-- The access pattern that a protection is for. -/
def Protection.pattern : Protection → AccessPattern
  | indexedByTenant .. => .indexedByTenant
  | docPerTenant .. => .docPerTenant
  | docPerUser => .docPerUser

/-- A collection by its name, which is one segment of a path, and its protection. -/
structure Collection where
  name : String
  protection : Protection
deriving DecidableEq, Repr

/-- A collection together with the schema type that declares it. -/
structure Descriptor extends Collection where
  typeName : String
deriving DecidableEq, Repr

end SchemaPolicy
