import SchemaPolicy.Config.Basic
import SchemaPolicy.Project.Error
import SchemaPolicy.Project.Source

/-! Projects: a configuration, and the directory from which its paths are seen. -/

namespace SchemaPolicy

/-- A project as it was loaded. -/
structure Project where
  source : Source
  /-- The directory from which the paths of the configuration are seen. -/
  baseDir : Path
  config : Config
  extraRules : List Rule
deriving DecidableEq, Repr

namespace Project

/-- The project in a directory that a configuration text makes. A text that is faulty in several
ways fails for its settings first. -/
def ofText (projectDir : Path) (source : Source) (text : String) : Except ProjectError Project := do
  let path := source.path?.getD ⟨""⟩
  let config ← (Config.ofText text).mapError (.config path)
  let extraRules ← (extraRulesOfText text).mapError (.extraRules path)
  return { source, baseDir := source.baseDir projectDir, config, extraRules }

/-- The schema file: the one that is asked for, or the configured one. -/
def schemaPath (project : Project) (asked? : Option Path) : Path :=
  asked?.getD (project.baseDir.join project.config.schema.path)

/-- The file for the document: the one that is asked for, or the configured one, if any. -/
def outputPath? (project : Project) (asked? : Option Path) : Option Path :=
  asked? <|> project.config.output.file?.map project.baseDir.join

end Project

end SchemaPolicy
