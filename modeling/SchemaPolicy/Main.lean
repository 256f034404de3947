import SchemaPolicy.CommandLine.Report

/-! The program: carries out a command line on the files of the machine. -/

namespace SchemaPolicy

/-- The fault behind an answer of the machine. -/
def FileFault.ofError : IO.Error → FileFault
  | .noFileOrDirectory .. => .notFound
  | .inappropriateType _ code _ => if code = 21 ∨ code = 0 - 21 then .isDirectory else .notDirectory
  | .invalidArgument _ code reason =>
    if code = 36 ∨ code = 0 - 36 then .nameTooLong
    else if code = 22 then .nulInPath
    else .other reason
  | .permissionDenied _ code _ =>
    if code = 1 ∨ code = 0 - 1 then .other "Operation not permitted (os error 1)"
    else .other "Permission denied (os error 13)"
  | error => .other (toString error)

/-- Whether a path leads to something on the machine. What is there is not opened. -/
def leadsOn (path : Path) : IO Bool := do
  match FileTree.check path with
  | .error _ => return false
  | .ok () =>
    match ← (IO.FS.realPath path.text).toBaseIO with
    | .ok _ => return true
    | .error _ => return false

/-- Whether a path leads to something that is no directory. With a slash behind it, such a path
leads nowhere. -/
def leadsToFile (path : Path) : IO Bool := do
  return (← leadsOn path) && !(← leadsOn ⟨path.text ++ "/"⟩)

/-- The text of a file of the machine. -/
def readFile (path : Path) : IO (Except FileFault String) := do
  match ← (IO.FS.readBinFile path.text).toBaseIO with
  | .error error => return .error (.ofError error)
  | .ok bytes =>
    match String.fromUTF8? bytes with
    | some text => return .ok text
    | none => return .error .notText

/-- Carries out a script on the files of the machine, and logs the events that a filter lets
through. -/
def Script.carryOut {α : Type} (filter : LogFilter) : Script α → IO α
  | .done value => return value
  | .askFile path next => do (next (← leadsToFile path)).carryOut filter
  | .askPresent path next => do (next (← leadsOn path)).carryOut filter
  | .fetch path next => do (next (← readFile path)).carryOut filter
  | .store path text next => do
    match ← (IO.FS.writeFile path.text text).toBaseIO with
    | .ok () => (next (.ok ())).carryOut filter
    | .error error => (next (.error (.ofError error))).carryOut filter
  | .note event next => do
    if filter.admits event then IO.eprintln event.logged
    next.carryOut filter

/-- Says on standard error what a run has failed for. -/
def CommandLine.Outcome.report : CommandLine.Outcome → IO Unit
  | .success _ => return
  | .misuse => IO.eprint CommandLine.helpText
  | .failure message => IO.eprintln (CommandLine.Outcome.failure message).complaint
  | .brokenOff => IO.eprintln s!"A character is broken in {Environment.logVariable}."
  | .schemaFault path error => IO.eprintln (ProjectError.schema path error).message

/-- The surroundings that the process inherits. -/
def Environment.inherited : IO Environment := do
  return {
    configDir? := (← IO.getEnv configDirVariable).map Path.mk
    home? := (← IO.getEnv "HOME").map Path.mk
    logSpec? := ← IO.getEnv logVariable }

/-- Runs a command line on the machine, and gives the status to end with. -/
def CommandLine.execute (arguments : List String) : IO UInt32 := do
  let environment ← Environment.inherited
  let script := CommandLine.run environment arguments
  let outcome ← script.carryOut (CommandLine.logFilter environment arguments)
  IO.print outcome.stdout
  outcome.report
  return outcome.exitCode.toUInt32

end SchemaPolicy

def main (arguments : List String) : IO UInt32 := SchemaPolicy.CommandLine.execute arguments
