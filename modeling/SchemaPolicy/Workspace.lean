import SchemaPolicy.CommandLine.Report

/-! Workspaces: a tree of files, the surroundings of runs in it, and the project that is open. -/

namespace SchemaPolicy

/-- The state that actions work on, one after the other. -/
structure Workspace where
  tree : FileTree
  environment : Environment := {}
  project? : Option Project := none
deriving Repr

namespace Workspace

variable {α : Type}

/-- What comes of an action: its result, the workspace as it leaves it, and what it reported. -/
structure Step (α : Type) where
  value : α
  workspace : Workspace
  events : List Event

/-- Runs a script on the files of a workspace. -/
def perform (workspace : Workspace) (script : Script α) : Step α :=
  let effect := script.run workspace.tree
  ⟨effect.value, { workspace with tree := effect.tree }, effect.events⟩

/-- Opens the project in a directory. If that fails, none is open. -/
def load (workspace : Workspace) (dir : Path) (config? : Option Path) :
    Step (Except ProjectError Project) :=
  let step := workspace.perform (Project.load workspace.environment dir config?).run
  { step with workspace := { step.workspace with project? := step.value.toOption } }

/-- Generates the document of the open project. -/
def generate? (workspace : Workspace) (schema? : Option Path) :
    Option (Step (Except ProjectError String)) :=
  workspace.project?.map fun project => workspace.perform (project.generate schema?).run

/-- Lists the collections of the open project. -/
def list? (workspace : Workspace) (schema? : Option Path) :
    Option (Step (Except ProjectError (List Descriptor))) :=
  workspace.project?.map fun project => workspace.perform (project.descriptors schema?).run

/-- Generates the document of a project and writes it to its file, which is returned. -/
def emission (project : Project) (schema? output? : Option Path) :
    ProjectScript (Option Path) := do
  let document ← project.generate schema?
  let target? := project.outputPath? output?
  if let some path := target? then writeDocument path document
  return target?

/-- Generates the document of the open project and writes it to its file, if it has one. -/
def emit? (workspace : Workspace) (schema? output? : Option Path) :
    Option (Step (Except ProjectError (Option Path))) :=
  workspace.project?.map fun project => workspace.perform (emission project schema? output?).run

/-- Runs a command line. Only events that pass its log filter are logged. -/
def command (workspace : Workspace) (arguments : List String) : Step CommandLine.Outcome :=
  let step := workspace.perform (CommandLine.run workspace.environment arguments)
  let filter := CommandLine.logFilter workspace.environment arguments
  { step with events := step.events.filter filter.admits }

end Workspace

end SchemaPolicy
