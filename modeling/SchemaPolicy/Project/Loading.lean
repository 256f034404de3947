import SchemaPolicy.Environment
import SchemaPolicy.Project.Basic
import SchemaPolicy.Script

/-! Loading a project: its configuration is looked for in a fixed order of places, and the first
place found is the only one used. -/

namespace SchemaPolicy

/-- A script that may end in an error of its project. -/
abbrev ProjectScript := ExceptT ProjectError Script

/-- Reads a file of a project; if that fails, the file is to blame. -/
def readProjectFile (path : Path) : ProjectScript String :=
  ExceptT.mk do return (← Script.read path).mapError (.inaccessible path)

@[simp] theorem run_readProjectFile (path : Path) (tree : FileTree) :
    (readProjectFile path).run.run tree =
      ⟨(tree.read path).mapError (.inaccessible path), tree, []⟩ := rfl

/-- The first of these names that a file in a directory has. -/
def firstFile? (directory : Path) : List Path → Script (Option Path)
  | [] => return none
  | name :: others => do
    if ← Script.isFile (directory.join name) then return some (directory.join name)
    firstFile? directory others

namespace Source

/-- The place of the configuration for a project directory: the file that is asked for, one in the
project directory, the user's own, or no file. -/
def locate (projectDir : Path) (asked? userDir? : Option Path) : Script Source := do
  if let some path := asked? then return .flag path
  if let some path ← firstFile? projectDir projectFileNames then return .project path
  if let some directory := userDir? then
    if let some path ← firstFile? directory [userFileName] then return .user path
  return .defaults

/-- The text of a configuration; without a file it is empty. -/
def text (source : Source) : ProjectScript String :=
  match source.path? with
  | some path => readProjectFile path
  | none => return ""

end Source

namespace Project

/-- Loads the project in a directory, with the configuration that is asked for or the one found. -/
def load (environment : Environment) (projectDir : Path) (asked? : Option Path) :
    ProjectScript Project := do
  let source ← Source.locate projectDir asked? environment.userConfigDir?
  Script.report (.configured source)
  let text ← source.text
  ExceptT.mk (pure (ofText projectDir source text))

end Project

end SchemaPolicy
