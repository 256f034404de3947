import SchemaPolicy.Config.Basic
import SchemaPolicy.Extraction

/-! Compilation: from a schema text to a rules document. -/

namespace SchemaPolicy

/-- The document for a schema under a configuration. There is none if any declaration is faulty. -/
def compile (schema : String) (extraRules : List Rule) (config : Config) :
    Traced SchemaError String := do
  let descriptors ← extract schema config.schema.directive
  Traced.report (.composing descriptors.length extraRules.length)
  let collections := descriptors.map Descriptor.toCollection
  return String.ofList (Ruleset.render config.output.envelope collections extraRules)

end SchemaPolicy
