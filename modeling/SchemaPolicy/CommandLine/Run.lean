import SchemaPolicy.CommandLine.Arguments
import SchemaPolicy.CommandLine.Starter
import SchemaPolicy.Listing.Json
import SchemaPolicy.Listing.Table
import SchemaPolicy.LogFilter.Basic
import SchemaPolicy.Project.Generation

/-! Running a command line. What is printed is part of the outcome: a run that fails prints
nothing. -/

namespace SchemaPolicy.CommandLine

/-- How a run ends, with what it prints or has to tell. -/
inductive Outcome where
  | success (stdout : String)
  | misuse
  | failure (message : String)
  | schemaFault (path : Path) (error : SchemaError)
  /-- The run breaks off before it does anything, for want of a log filter. -/
  | brokenOff
deriving DecidableEq, Repr

namespace Outcome

/-- The status that a run ends with. -/
def exitCode : Outcome → Nat
  | success _ => 0
  | misuse => 2
  | failure _ | schemaFault .. => 1
  | brokenOff => 101

/-- What a run prints on standard output. -/
def stdout : Outcome → String
  | success stdout => stdout
  | _ => ""

/-- The outcome of a run that stops at an error of its project. -/
def ofError : ProjectError → Outcome
  | .schema path error => schemaFault path error
  | error => failure error.message

end Outcome

/-- The text that the flag for the version asks for. -/
def versionText : String := "tenant-rules 0.3.1\n"

/-- The text that the flag for help asks for. -/
def helpText : String :=
  "Firestore security rule generator for multi-tenant GraphQL schemas\n\n" ++
  "Usage: tenant-rules [OPTIONS] <COMMAND>\n\n" ++
  "Commands:\n" ++
  "  generate [--output FILE | --stdout] [SCHEMA]  Generate the rules document\n" ++
  "  list [--format text|json] [SCHEMA]            List collections declared in the schema\n" ++
  "  init [--force]                                Initialize configuration file\n\n" ++
  "Options:\n" ++
  "  -v, --verbose        Enable verbose output\n" ++
  "  -c, --config CONFIG  Path to configuration file\n" ++
  "  -C, --dir DIR        Project directory [default: .]\n" ++
  "  -h, --help           Print help\n" ++
  "  -V, --version        Print version\n"

/-- Ends a script in the outcome of its result; an error of the project is one too. -/
def concluded (script : ProjectScript Outcome) : Script Outcome := do
  match ← script.run with
  | .ok outcome => return outcome
  | .error error => return .ofError error

/-- Goes on with the project of an invocation. If it does not load, the failure is told without its
cause. -/
def withProject (environment : Environment) (invocation : Invocation)
    (rest : Project → ProjectScript Outcome) : Script Outcome := do
  match ← (Project.load environment invocation.dir invocation.config?).run with
  | .ok project => concluded (rest project)
  | .error _ => return .failure "Failed to load project configuration"

/-- Generates the document of a schema and prints it, or writes it to its file if there is one and
it is not to be printed. -/
def generate (schema? output? : Option Path) (toStdout : Bool) (project : Project) :
    ProjectScript Outcome := do
  let document ← project.generate schema?
  match if toStdout then none else project.outputPath? output? with
  | none => return .success document
  | some path =>
    writeDocument path document
    Script.report (.wrote path)
    return .success ""

/-- The listing of some collections in a format. -/
def ListingFormat.render : ListingFormat → List Descriptor → String
  | text => Listing.table
  | json => Listing.json

/-- Lists the collections of a schema. -/
def list (schema? : Option Path) (format : ListingFormat) (project : Project) :
    ProjectScript Outcome := do
  return .success (format.render (← project.descriptors schema?))

/-- Writes the configuration to start with into a directory. One that is there is replaced only by
force. -/
def init (dir : Path) (force : Bool) : Script Outcome := do
  let path := dir.join starterFileName
  if (← Script.isPresent path) && !force then
    return .failure (s!"Configuration file already exists at {path.text}. " ++
      "Use --force to overwrite.")
  match ← Script.write path starterConfig with
  | .error fault => return .failure fault.message
  | .ok () =>
    return .success (s!"Created {path.text}\n\nNext steps:\n" ++
      "  1. Annotate types in your schema with @collection\n" ++
      "  2. Run: tenant-rules generate\n")

/-- Runs the command of an invocation. -/
def Invocation.run (environment : Environment) (invocation : Invocation) : Script Outcome :=
  match invocation.command with
  | .generate schema? output? toStdout =>
    withProject environment invocation (generate schema? output? toStdout)
  | .list schema? format => withProject environment invocation (list schema? format)
  | .init force => init invocation.dir force

/-- Runs a command line. What is to be logged is settled before anything is done. -/
def run (environment : Environment) (arguments : List String) : Script Outcome :=
  match Invocation.ofArguments arguments with
  | .ok invocation =>
    match LogFilter.choose? environment invocation.verbose with
    | some _ => invocation.run environment
    | none => return .brokenOff
  | .error .misuse => return .misuse
  | .error .help => return .success helpText
  | .error .version => return .success versionText

/-- Which events of a run are logged. -/
def logFilter (environment : Environment) (arguments : List String) : LogFilter :=
  match Invocation.ofArguments arguments with
  | .ok invocation => (LogFilter.choose? environment invocation.verbose).getD []
  | .error _ => []

end SchemaPolicy.CommandLine
