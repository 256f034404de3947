import SchemaPolicy.Config.Mismatch
import SchemaPolicy.Path.Basic
import SchemaPolicy.Ruleset

/-! Configurations: the envelope of the rules document, and the schema that it is made from. -/

namespace SchemaPolicy

/-- The settings of the document: its envelope and its file, which may be missing. -/
structure OutputSettings where
  envelope : Envelope := {}
  file? : Option Path := none
deriving DecidableEq, Repr

/-- The settings of the schema: its file, and the directive that declares collections. -/
structure SchemaSettings where
  directive : String := "collection"
  path : Path := ⟨"schema.graphql"⟩
deriving DecidableEq, Repr

/-- The settings of a project. -/
structure Config where
  output : OutputSettings := {}
  schema : SchemaSettings := {}
deriving DecidableEq, Repr

namespace OutputSettings

/-- The keys of these settings, in the order in which an array gives their values. -/
def keys : List String := ["service", "rules-version", "root", "file"]

/-- Reads one entry; other keys mean nothing. -/
def set (settings : OutputSettings) : String × Toml.Value → Except Mismatch OutputSettings
  | ("service", value) => do
    let service ← value.asText .text
    return { settings with envelope := { settings.envelope with service } }
  | ("rules-version", value) => do
    let version ← value.asText .text
    return { settings with envelope := { settings.envelope with version? := some version } }
  | ("root", value) => do
    let root ← value.asText .text
    return { settings with envelope := { settings.envelope with root } }
  | ("file", value) => do
    return { settings with file? := some ⟨← value.asText .path⟩ }
  | _ => return settings

/-- The settings that a value makes; what it leaves out keeps its default. -/
def ofToml (value : Toml.Value) : Except Mismatch OutputSettings := do
  (← value.asTable keys .outputSettings).foldlM set {}

end OutputSettings

namespace SchemaSettings

/-- The keys of these settings, in the order in which an array gives their values. -/
def keys : List String := ["directive", "path"]

/-- Reads one entry; other keys mean nothing. -/
def set (settings : SchemaSettings) : String × Toml.Value → Except Mismatch SchemaSettings
  | ("directive", value) => do return { settings with directive := ← value.asText .text }
  | ("path", value) => do return { settings with path := ⟨← value.asText .path⟩ }
  | _ => return settings

/-- The settings that a value makes; what it leaves out keeps its default. -/
def ofToml (value : Toml.Value) : Except Mismatch SchemaSettings := do
  (← value.asTable keys .schemaSettings).foldlM set {}

end SchemaSettings

namespace Config

/-- Reads one entry; other keys mean nothing. -/
def set (config : Config) : String × Toml.Value → Except Mismatch Config
  | ("output", value) => do return { config with output := ← OutputSettings.ofToml value }
  | ("schema", value) => do return { config with schema := ← SchemaSettings.ofToml value }
  | _ => return config

/-- The configuration that the entries of a document make, or the first mismatch. -/
def ofEntries (entries : List (String × Toml.Value)) : Except Mismatch Config :=
  entries.foldlM set {}

/-- The configuration that a text makes, or what is wrong with the text. -/
def ofText (text : String) : Except ConfigFault Config :=
  match Toml.ofText? text with
  | none => .error .malformed
  | some entries => (ofEntries entries).mapError .mismatch

end Config

end SchemaPolicy
