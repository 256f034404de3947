import SchemaPolicy.Path.Basic

/-! The options of the program and of its subcommands, and the words of a command line. -/

namespace SchemaPolicy.CommandLine

/-- The subcommands of the program. -/
inductive Subcommand where
  | generate
  | list
  | init
deriving DecidableEq, Repr

namespace Subcommand

def all : List Subcommand := [generate, list, init]

/-- The word for a subcommand. -/
def word : Subcommand → String
  | generate => "generate"
  | list => "list"
  | init => "init"

/-- The subcommand that a word names. -/
def ofWord? (word : String) : Option Subcommand := all.find? (·.word = word)

/-- How many operands a subcommand takes: a schema, where it reads one. -/
def operandLimit : Subcommand → Nat
  | generate | list => 1
  | init => 0

end Subcommand

/-- The formats of a listing. -/
inductive ListingFormat where
  | text
  | json
deriving DecidableEq, Repr

namespace ListingFormat

def all : List ListingFormat := [text, json]

/-- The word for a format. -/
def word : ListingFormat → String
  | text => "text"
  | json => "json"

/-- The format that a word names. -/
def ofWord? (word : String) : Option ListingFormat := all.find? (·.word = word)

end ListingFormat

/-- The options without a value. -/
inductive Flag where
  | verbose
  | stdout
  | force
  | help
  | version
deriving DecidableEq, Repr

/-- The options with a value. -/
inductive Setting where
  | config
  | dir
  | output
  | format
deriving DecidableEq, Repr

/-- Whether a value is one for a setting: a format, or a path that is not empty. -/
def Setting.accepts : Setting → String → Bool
  | .format, value => (ListingFormat.ofWord? value).isSome
  | _, value => value ≠ ""

/-- What an option stands for. -/
inductive OptionKind where
  | flag (flag : Flag)
  | setting (setting : Setting)
deriving DecidableEq, Repr

/-- An option as it is spelled: a name behind two dashes, and perhaps a letter behind one. -/
structure OptionSpec where
  letter? : Option Char := none
  name : String
  kind : OptionKind
deriving Repr

/-- The options that may stand before a subcommand and behind it. -/
def sharedOptions : List OptionSpec :=
  [⟨'v', "verbose", .flag .verbose⟩, ⟨'c', "config", .setting .config⟩,
    ⟨'C', "dir", .setting .dir⟩, ⟨'h', "help", .flag .help⟩]

/-- The options that are known before the subcommand, or behind one. -/
def options : Option Subcommand → List OptionSpec
  | none => sharedOptions ++ [⟨'V', "version", .flag .version⟩]
  | some .generate =>
    sharedOptions ++ [⟨'o', "output", .setting .output⟩, ⟨none, "stdout", .flag .stdout⟩]
  | some .list => sharedOptions ++ [⟨'f', "format", .setting .format⟩]
  | some .init => sharedOptions ++ [⟨none, "force", .flag .force⟩]

/-- What a letter behind a dash stands for. -/
def ofLetter? (subcommand? : Option Subcommand) (letter : Char) : Option OptionKind :=
  ((options subcommand?).find? (·.letter? = some letter)).map (·.kind)

/-- What a name behind two dashes stands for. -/
def ofName? (subcommand? : Option Subcommand) (name : String) : Option OptionKind :=
  ((options subcommand?).find? (·.name = name)).map (·.kind)

/-- The shapes of a word on a command line. -/
inductive Word where
  /-- Two dashes: all words that follow are operands. -/
  | terminator
  /-- Two dashes and a name, with the value after an equals sign. -/
  | long (name : String) (value? : Option String)
  | short (letters : List Char)
  | plain
deriving DecidableEq, Repr

/-- The shape of a word. A single dash on its own is a plain word. -/
def Word.ofText (text : String) : Word :=
  match text.toList with
  | ['-', '-'] => .terminator
  | '-' :: '-' :: body =>
    match body.span (· ≠ '=') with
    | (name, []) => .long (String.ofList name) none
    | (name, _ :: value) => .long (String.ofList name) (some (String.ofList value))
  | '-' :: letter :: letters => .short (letter :: letters)
  | _ => .plain

end SchemaPolicy.CommandLine
