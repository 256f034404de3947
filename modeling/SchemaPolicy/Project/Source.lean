import SchemaPolicy.Path.Basic

/-! Where a project's configuration comes from. -/

namespace SchemaPolicy

/-- The places that a configuration can come from. -/
inductive Source where
  /-- A file that was asked for; it need not exist. -/
  | flag (path : Path)
  | project (path : Path)
  | user (path : Path)
  | defaults
deriving DecidableEq, Repr

namespace Source

/-- The names of a configuration file in a project directory, the preferred one first. -/
def projectFileNames : List Path := [⟨"tenant-rules.toml"⟩, ⟨".tenant-rules.toml"⟩]

/-- The name of a configuration file in the directory of user configurations. -/
def userFileName : Path := ⟨"config.toml"⟩

/-- The file of a configuration, if it has one. -/
def path? : Source → Option Path
  | flag path | project path | user path => some path
  | defaults => none

/-- The directory from which a configuration's relative paths are seen: that of its file, when the
file belongs to the project. -/
def baseDir (source : Source) (projectDir : Path) : Path :=
  match source with
  | flag path | project path => path.parent?.getD projectDir
  | user _ | defaults => projectDir

/-- The place in words. -/
def phrase : Source → String
  | flag path => s!"config {path.text} (--config)"
  | project path => s!"project config {path.text}"
  | user path => s!"user config {path.text}"
  | defaults => "built-in defaults"

end Source

end SchemaPolicy
