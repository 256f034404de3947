import SchemaPolicy.Config.Mismatch
import SchemaPolicy.Rule.Basic
import SchemaPolicy.Text.Blank

/-! Hand-written rules, as a configuration states them. -/

namespace SchemaPolicy

/-- What a configuration states for an operation: a yes or no, or a condition. -/
inductive StatedAccess where
  | flag (granted : Bool)
  | condition (text : String)
deriving DecidableEq, Repr

/-- A hand-written rule as it is stated, before anything of it is checked. -/
structure ExtraRule where
  path : String
  comment? : Option String := none
  preamble? : Option String := none
  create? : Option StatedAccess := none
  read? : Option StatedAccess := none
  update? : Option StatedAccess := none
  delete? : Option StatedAccess := none
deriving DecidableEq, Repr

/-- What can be wrong with hand-written rules. -/
inductive ExtraRuleError where
  | unreadable (fault : ConfigFault)
  /-- The path of the rule with this index does not start with a slash. -/
  | invalidPath (index : Nat) (path : String)
  /-- A condition of the rule with this index is blank. -/
  | emptyCondition (index : Nat) (operation : Operation)
deriving Repr

/-- The error in words, with the key to blame, where it has words of its own. -/
def ExtraRuleError.message? : ExtraRuleError → Option String
  | unreadable fault => fault.message?
  | invalidPath index path =>
    some s!"extra-rules[{index}].match: `{path}` must be a non-empty path starting with `/`"
  | emptyCondition index operation =>
    some s!"extra-rules[{index}].allow-{operation.keyword}: condition must not be empty"

namespace ExtraRule

/-- What a rule states for an operation. -/
def stated? (rule : ExtraRule) : Operation → Option StatedAccess
  | .create => rule.create?
  | .read => rule.read?
  | .update => rule.update?
  | .delete => rule.delete?

/-- The access that is stated for an operation. What is not stated is denied. -/
def access (rule : ExtraRule) (index : Nat) (op : Operation) : Except ExtraRuleError Access :=
  match rule.stated? op with
  | none => .ok .deny
  | some (.flag granted) => .ok (.ofBool granted)
  | some (.condition text) =>
    if Text.Blank text.toList then .error (.emptyCondition index op) else .ok (.when text)

/-- The rule that is stated, as one of several with this index. -/
def toRule (rule : ExtraRule) (index : Nat) : Except ExtraRuleError Rule := do
  let path := Text.trim rule.path.toList
  unless path.head? = some '/' do throw (.invalidPath index rule.path)
  let create ← rule.access index .create
  let read ← rule.access index .read
  let update ← rule.access index .update
  let delete ← rule.access index .delete
  return { path := String.ofList path, comment? := rule.comment?, preamble? := rule.preamble?,
           create, read, update, delete }

/-- The rules that are stated from an index on, or the first error. -/
def toRulesFrom (index : Nat) : List ExtraRule → Except ExtraRuleError (List Rule)
  | [] => return []
  | rule :: others => do
    let first ← rule.toRule index
    return first :: (← toRulesFrom (index + 1) others)

/-- The rules that are stated, or the first error. -/
def toRules (rules : List ExtraRule) : Except ExtraRuleError (List Rule) := toRulesFrom 0 rules

end ExtraRule

end SchemaPolicy
