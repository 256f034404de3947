import SchemaPolicy.Collection.Rule
import SchemaPolicy.Rule.Printer

/-! Rules documents: an envelope around a section of hand-written rules and a section of rules
generated from collections. -/

namespace SchemaPolicy

/-- What stands around the rules of a document. -/
structure Envelope where
  service : String := "cloud.firestore"
  /-- The version line's value; no line is written when it is absent or empty. -/
  version? : Option String := some "2"
  /-- The path of the block around all rules. -/
  root : String := "/databases/\x7bdatabase\x7d/documents"
deriving DecidableEq, Repr

namespace Ruleset

/-- The blocks of some rules, each set in by two levels, with an empty line between neighbours. -/
def blocks (rules : List Rule) : List Char :=
  Text.joinWith "\n\n".toList (rules.map fun rule => Text.indent 2 rule.render)

/-- A section and its line end; an empty section has none. -/
def sectionLines (text : List Char) : List Char := if text = [] then [] else text ++ ['\n']

/-- The document down to the heading of the hand-written rules. -/
def head (envelope : Envelope) : List Char :=
  (match envelope.version? with
    | none => []
    | some version =>
      if version = "" then []
      else "rules_version = '".toList ++ version.toList ++ "';\n".toList) ++
  "service ".toList ++ envelope.service.toList ++ " \x7b\n".toList ++
  "  match ".toList ++ envelope.root.toList ++ " \x7b\n".toList ++
  "    // Extra rules\n".toList

/-- The heading of the generated rules, below an empty line. -/
def middle : List Char := "\n    // Generated rules\n".toList

/-- The braces that close the blocks around all rules. -/
def tail : List Char := "  \x7d\n\x7d\n".toList

/-- The document that grants what the hand-written rules and the collections' rules grant. -/
def render (envelope : Envelope) (collections : List Collection) (extraRules : List Rule) :
    List Char :=
  head envelope ++ sectionLines (blocks extraRules) ++ middle ++
    sectionLines (blocks (collections.map Collection.rule)) ++ tail

end Ruleset

end SchemaPolicy
