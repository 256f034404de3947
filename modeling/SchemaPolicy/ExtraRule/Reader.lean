import SchemaPolicy.ExtraRule.Basic

/-! Reading hand-written rules from a configuration. -/

namespace SchemaPolicy

/-- The access that a value states. -/
def StatedAccess.ofToml : Toml.Value → Except Mismatch StatedAccess
  | .boolean granted => .ok (.flag granted)
  | .string text => .ok (.condition text)
  | _ => .error .noAccess

namespace ExtraRule

/-- The keys of a rule, in the order in which an array gives their values. -/
def keys : List String :=
  ["match", "comment", "extra", "allow-create", "allow-read", "allow-update", "allow-delete"]

/-- A rule of which the path may still be unknown. -/
structure Draft where
  path? : Option String := none
  rest : ExtraRule := { path := "" }
deriving Repr

/-- Reads one entry. A key that is none of a rule's is a mismatch. -/
def Draft.set (draft : Draft) : String × Toml.Value → Except Mismatch Draft
  | ("match", value) => do return { draft with path? := some (← value.asText .text) }
  | ("comment", value) => do
    let comment ← value.asText .text
    return { draft with rest := { draft.rest with comment? := some comment } }
  | ("extra", value) => do
    let preamble ← value.asText .text
    return { draft with rest := { draft.rest with preamble? := some preamble } }
  | ("allow-create", value) => do
    let stated ← StatedAccess.ofToml value
    return { draft with rest := { draft.rest with create? := some stated } }
  | ("allow-read", value) => do
    let stated ← StatedAccess.ofToml value
    return { draft with rest := { draft.rest with read? := some stated } }
  | ("allow-update", value) => do
    let stated ← StatedAccess.ofToml value
    return { draft with rest := { draft.rest with update? := some stated } }
  | ("allow-delete", value) => do
    let stated ← StatedAccess.ofToml value
    return { draft with rest := { draft.rest with delete? := some stated } }
  | (key, _) => .error (.unknownKey key keys)

/-- The rule that a value states. Its path has to be given. -/
def ofToml (value : Toml.Value) : Except Mismatch ExtraRule := do
  let draft ← (← value.asTable keys .extraRule).foldlM Draft.set {}
  match draft.path?, value with
  | some path, _ => return { draft.rest with path }
  | none, .array _ => throw (.tooShort .extraRule keys.length)
  | none, _ => throw (.missingKey "match")

/-- The rules that the entries of a document state under the key `extra-rules`. -/
def ofEntries (entries : List (String × Toml.Value)) : Except Mismatch (List ExtraRule) :=
  match entries.lookup "extra-rules" with
  | none => .ok []
  | some value => do (← value.asItems).mapM ofToml

end ExtraRule

/-- The rules that a configuration text states, or the first error. -/
def extraRulesOfText (text : String) : Except ExtraRuleError (List Rule) :=
  match Toml.ofText? text with
  | none => .error (.unreadable .malformed)
  | some entries => do
    let stated ← (ExtraRule.ofEntries entries).mapError (.unreadable ∘ .mismatch)
    ExtraRule.toRules stated

end SchemaPolicy
