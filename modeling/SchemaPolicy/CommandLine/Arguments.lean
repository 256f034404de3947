import SchemaPolicy.CommandLine.Option

/-! Reading a command line. -/

namespace SchemaPolicy.CommandLine

/-- Why the reading of a command line ends without a command to run. -/
inductive Interruption where
  | misuse
  | help
  | version
deriving DecidableEq, Repr

/-- What a part of a command line gives: the one before the subcommand, or the one behind it. -/
structure Given where
  flags : List Flag := []
  settings : List (Setting × String) := []
  operands : List String := []
deriving DecidableEq, Repr

namespace Given

/-- Adds a flag. None may be repeated; those that ask for a text end the reading. -/
def addFlag (given : Given) (flag : Flag) : Except Interruption Given :=
  match flag with
  | .help => .error .help
  | .version => .error .version
  | flag =>
    if flag ∈ given.flags then .error .misuse else .ok { given with flags := flag :: given.flags }

/-- Adds a setting. None may be repeated, and its value must be one for it. -/
def addSetting (given : Given) (setting : Setting) (value : String) : Except Interruption Given :=
  if (given.settings.lookup setting).isSome ∨ !setting.accepts value then .error .misuse
  else .ok { given with settings := (setting, value) :: given.settings }

/-- Adds an operand, of which there is a limited number. All are paths. -/
def addOperand (given : Given) (limit : Nat) (operand : String) : Except Interruption Given :=
  if given.operands.length < limit ∧ operand ≠ "" then
    .ok { given with operands := given.operands ++ [operand] }
  else .error .misuse

/-- The path that is given for a setting. -/
def path? (given : Given) (setting : Setting) : Option Path :=
  (given.settings.lookup setting).map Path.mk

end Given

/-- Reads letters behind a dash. The first that is a setting's takes the rest as its value, without
an equals sign in front; if no rest is left, the value is yet to come. -/
def readLetters (subcommand? : Option Subcommand) (given : Given) :
    List Char → Except Interruption (Given × Option Setting)
  | [] => return (given, none)
  | letter :: rest =>
    match ofLetter? subcommand? letter, rest with
    | none, _ => throw .misuse
    | some (.flag flag), rest => do readLetters subcommand? (← given.addFlag flag) rest
    | some (.setting setting), [] => return (given, some setting)
    | some (.setting setting), '=' :: value => do
      return (← given.addSetting setting (String.ofList value), none)
    | some (.setting setting), value => do
      return (← given.addSetting setting (String.ofList value), none)

/-- Reads a name behind two dashes. A flag takes no value; a setting without one waits for it. -/
def readName (subcommand? : Option Subcommand) (given : Given) (name : String)
    (value? : Option String) : Except Interruption (Given × Option Setting) :=
  match ofName? subcommand? name, value? with
  | none, _ | some (.flag _), some _ => throw .misuse
  | some (.flag flag), none => do return (← given.addFlag flag, none)
  | some (.setting setting), none => return (given, some setting)
  | some (.setting setting), some value => do return (← given.addSetting setting value, none)

/-- Reads words up to the subcommand, or to the end behind one, and gives what is left. A setting
that waits for its value takes a plain word only. -/
def readWords (subcommand? : Option Subcommand) (given : Given) (waiting? : Option Setting) :
    List String → Except Interruption (Given × List String)
  | [] => if waiting?.isSome then throw .misuse else return (given, [])
  | text :: texts =>
    match waiting?, Word.ofText text with
    | some setting, .plain => do readWords subcommand? (← given.addSetting setting text) none texts
    | some _, _ => throw .misuse
    | none, .plain =>
      match subcommand? with
      | none => return (given, text :: texts)
      | some subcommand => do
        readWords subcommand? (← given.addOperand subcommand.operandLimit text) none texts
    | none, .terminator =>
      match subcommand? with
      | none => throw .misuse
      | some subcommand => do
        return (← texts.foldlM (·.addOperand subcommand.operandLimit) given, [])
    | none, .long name value? => do
      let (given, waiting?) ← readName subcommand? given name value?
      readWords subcommand? given waiting? texts
    | none, .short letters => do
      let (given, waiting?) ← readLetters subcommand? given letters
      readWords subcommand? given waiting? texts

/-- What is to be done, with the operands and options of the subcommand. -/
inductive Command where
  /-- Generates the document of a schema, for a file or for standard output. -/
  | generate (schema? output? : Option Path) (toStdout : Bool)
  | list (schema? : Option Path) (format : ListingFormat)
  | init (force : Bool)
deriving DecidableEq, Repr

/-- A command, and the options that all subcommands share. -/
structure Invocation where
  verbose : Bool
  config? : Option Path
  dir : Path
  command : Command
deriving DecidableEq, Repr

/-- The command that a subcommand makes of what is given. To print the document and to write it to a
file exclude each other. -/
def Given.command (given : Given) : Subcommand → Except Interruption Command
  | .generate =>
    if Flag.stdout ∈ given.flags ∧ (given.path? .output).isSome then .error .misuse
    else .ok (.generate (given.operands.head?.map Path.mk) (given.path? .output)
      (Flag.stdout ∈ given.flags))
  | .list =>
    .ok (.list (given.operands.head?.map Path.mk)
      (((given.settings.lookup .format).bind ListingFormat.ofWord?).getD .text))
  | .init => .ok (.init (Flag.force ∈ given.flags))

/-- What the word for help asks for: it may name one subcommand, or itself. -/
def readHelp : List String → Interruption
  | [] => .help
  | [word] => if word = "help" ∨ (Subcommand.ofWord? word).isSome then .help else .misuse
  | _ => .misuse

/-- The invocation that a command line makes. Of a shared option in front of the subcommand and
behind it, the one behind it counts. -/
def Invocation.ofArguments (arguments : List String) : Except Interruption Invocation := do
  let (outer, rest) ← readWords none {} none arguments
  match rest with
  | [] => throw .misuse
  | word :: rest =>
    if word = "help" then throw (readHelp rest)
    let some subcommand := Subcommand.ofWord? word | throw .misuse
    let (inner, _) ← readWords (some subcommand) {} none rest
    let command ← inner.command subcommand
    return {
      verbose := Flag.verbose ∈ outer.flags ∨ Flag.verbose ∈ inner.flags
      config? := inner.path? .config <|> outer.path? .config
      dir := (inner.path? .dir <|> outer.path? .dir).getD ⟨"."⟩
      command }

end SchemaPolicy.CommandLine
