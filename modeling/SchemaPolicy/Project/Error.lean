import SchemaPolicy.ExtraRule.Reader
import SchemaPolicy.Extraction
import SchemaPolicy.FileTree.Access

/-! What can go wrong with a project, and the file that is to blame. -/

namespace SchemaPolicy

/-- What can go wrong with a project, with the file where it does. -/
inductive ProjectError where
  | inaccessible (path : Path) (fault : FileFault)
  | config (path : Path) (fault : ConfigFault)
  | extraRules (path : Path) (error : ExtraRuleError)
  | schema (path : Path) (error : SchemaError)
deriving Repr

namespace ProjectError

/-- The file that is to blame; the empty path stands for the built-in configuration. -/
def path : ProjectError → Path
  | inaccessible path _ | config path _ | extraRules path _ | schema path _ => path

/-- The error in words, with its cause where that has words of its own. -/
def message : ProjectError → String
  | inaccessible path fault => s!"Failed to access {path.text}: {fault.message}"
  | config path fault => s!"Invalid config {path.text}" ++ cause fault.message?
  | extraRules path error => s!"Invalid extra rules in {path.text}" ++ cause error.message?
  | schema path error => path.text ++ cause error.message?
where
  /-- A cause behind what it caused. -/
  cause : Option String → String
    | none => ""
    | some words => ": " ++ words

end ProjectError

end SchemaPolicy
