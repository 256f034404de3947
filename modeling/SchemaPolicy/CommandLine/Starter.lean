import SchemaPolicy.Project.Source

/-! The configuration to start with: it says in words what holds without any configuration. -/

namespace SchemaPolicy.CommandLine

/-- The lines of the configuration. What is commented out shows the other keys. -/
def starterLines : List String :=
  ["# tenant-rules configuration",
    "",
    "[schema]",
    "# GraphQL schema with @collection annotations (relative to this file)",
    "path = \"schema.graphql\"",
    "# directive = \"collection\"",
    "",
    "[output]",
    "# Write here instead of stdout",
    "# file = \"firestore.rules\"",
    "service = \"cloud.firestore\"",
    "rules-version = \"2\"",
    "root = \"/databases/\x7bdatabase\x7d/documents\"",
    "",
    "# Hand-authored rules, emitted before the generated ones.",
    "# Each allow-* key takes true, false or a condition expression.",
    "#",
    "# [[extra-rules]]",
    "# match = \"/tenants/\x7btenantId\x7d\"",
    "# comment = \"Tenant registry\"",
    "# allow-read = \"request.auth != null\""]

/-- The text of the configuration. -/
def starterConfig : String := String.join (starterLines.map (· ++ "\n"))

/-- The name of its file, the one that is preferred in a project directory. -/
def starterFileName : Path := ⟨"tenant-rules.toml"⟩

end SchemaPolicy.CommandLine
