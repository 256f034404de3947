import SchemaPolicy.Project.Loading

/-! Generation: the collections and the rules document of a project. The only file that matters is
the schema. -/

namespace SchemaPolicy

namespace Project

/-- The collections that the schema of a project declares. -/
def descriptors (project : Project) (schema? : Option Path) : ProjectScript (List Descriptor) := do
  let path := project.schemaPath schema?
  let text ← readProjectFile path
  let extraction := Script.ofTraced (extract text project.config.schema.directive)
  ExceptT.mk do return (← extraction).mapError (.schema path)

/-- The document for some collections, in the envelope of the project and with its hand-written
rules. -/
def render (project : Project) (descriptors : List Descriptor) : String :=
  String.ofList (Ruleset.render project.config.output.envelope
    (descriptors.map Descriptor.toCollection) project.extraRules)

/-- The document of a project. There is none if any declaration is faulty. -/
def generate (project : Project) (schema? : Option Path) : ProjectScript String := do
  let descriptors ← project.descriptors schema?
  Script.report (.generating descriptors.length project.extraRules.length)
  return project.render descriptors

end Project

/-- Writes a document to a file. -/
def writeDocument (path : Path) (document : String) : ProjectScript Unit :=
  ExceptT.mk do return (← Script.write path document).mapError (.inaccessible path)

end SchemaPolicy
