import SchemaPolicy.Path.Basic

/-! The surroundings of a run: what its process inherits. -/

namespace SchemaPolicy

/-- What a run can learn from the variables of its process. -/
structure Environment where
  /-- The directory that replaces the usual one of user configurations. -/
  configDir? : Option Path := none
  home? : Option Path := none
  /-- Which events are logged. -/
  logSpec? : Option String := none
deriving DecidableEq, Repr

namespace Environment

/-- The variable with the directory of user configurations. -/
def configDirVariable : String := "TENANT_RULES_CONFIG_DIR"

/-- The variable that says which events are logged. -/
def logVariable : String := "RUST_LOG"

/-- The directory of user configurations in a home directory. -/
def configDirName : Path := ⟨".tenant-rules"⟩

/-- The directory of user configurations: the one that is set, or the usual one in the home
directory. -/
def userConfigDir? (environment : Environment) : Option Path :=
  environment.configDir? <|> environment.home?.map (·.join configDirName)

end Environment

end SchemaPolicy
