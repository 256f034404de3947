import SchemaPolicy.Collection.Basic
import SchemaPolicy.Collection.Pattern
import SchemaPolicy.Collection.Rule
import SchemaPolicy.CommandLine.Arguments
import SchemaPolicy.CommandLine.Option
import SchemaPolicy.CommandLine.Report
import SchemaPolicy.CommandLine.Run
import SchemaPolicy.CommandLine.Starter
import SchemaPolicy.Compilation
import SchemaPolicy.Config.Basic
import SchemaPolicy.Config.Mismatch
import SchemaPolicy.Decimal.Shortest
import SchemaPolicy.Declaration.Basic
import SchemaPolicy.Declaration.Descriptor
import SchemaPolicy.Declaration.Error
import SchemaPolicy.Environment
import SchemaPolicy.Event
import SchemaPolicy.ExtraRule.Basic
import SchemaPolicy.ExtraRule.Reader
import SchemaPolicy.Extraction
import SchemaPolicy.FileTree.Access
import SchemaPolicy.FileTree.Basic
import SchemaPolicy.Listing.Json
import SchemaPolicy.Listing.Table
import SchemaPolicy.LogFilter.Basic
import SchemaPolicy.LogFilter.Directive
import SchemaPolicy.LogFilter.Pattern.Basic
import SchemaPolicy.LogFilter.Pattern.Set
import SchemaPolicy.LogFilter.Pattern.Token
import SchemaPolicy.Main
import SchemaPolicy.Path.Basic
import SchemaPolicy.Project.Basic
import SchemaPolicy.Project.Error
import SchemaPolicy.Project.Generation
import SchemaPolicy.Project.Loading
import SchemaPolicy.Project.Source
import SchemaPolicy.Reader
import SchemaPolicy.Rule.Basic
import SchemaPolicy.Rule.Printer
import SchemaPolicy.Ruleset
import SchemaPolicy.Script
import SchemaPolicy.Sdl.Document
import SchemaPolicy.Sdl.Literal
import SchemaPolicy.Sdl.Parser
import SchemaPolicy.Sdl.Token
import SchemaPolicy.Text.Alphanumeric
import SchemaPolicy.Text.Blank
import SchemaPolicy.Text.Bytes
import SchemaPolicy.Text.Digit
import SchemaPolicy.Text.Lines
import SchemaPolicy.Text.Ranges
import SchemaPolicy.Text.Shown
import SchemaPolicy.Text.Terminal
import SchemaPolicy.Text.Unprintable
import SchemaPolicy.Toml.Number
import SchemaPolicy.Toml.Parser
import SchemaPolicy.Toml.Quoted
import SchemaPolicy.Toml.Table
import SchemaPolicy.Toml.Value
import SchemaPolicy.Traced
import SchemaPolicy.Workspace
import SchemaPolicy.Proofs.Collection.Block
import SchemaPolicy.Proofs.Collection.Faithful
import SchemaPolicy.Proofs.Collection.Guard
import SchemaPolicy.Proofs.Collection.Reading
import SchemaPolicy.Proofs.Collection.Shape
import SchemaPolicy.Proofs.CommandLine.Effect
import SchemaPolicy.Proofs.CommandLine.Footprint
import SchemaPolicy.Proofs.CommandLine.Initialization
import SchemaPolicy.Proofs.CommandLine.Starter
import SchemaPolicy.Proofs.Compilation
import SchemaPolicy.Proofs.Declaration.Arguments
import SchemaPolicy.Proofs.Declaration.Descriptor
import SchemaPolicy.Proofs.Extraction
import SchemaPolicy.Proofs.Extraction.Offence
import SchemaPolicy.Proofs.FileTree.Writing
import SchemaPolicy.Proofs.Project.Generation
import SchemaPolicy.Proofs.Project.Loading
import SchemaPolicy.Proofs.Ruleset.Containment
import SchemaPolicy.Proofs.Ruleset.Faithful
import SchemaPolicy.Proofs.Ruleset.Section
import SchemaPolicy.Proofs.Text.Indent
import SchemaPolicy.Proofs.Text.Literal
import SchemaPolicy.Proofs.Text.Nesting
import SchemaPolicy.Proofs.Text.Opening
import SchemaPolicy.Proofs.Declaration.Offence
import SchemaPolicy.Proofs.Compilation.Refusal
import SchemaPolicy.Proofs.Declaration.Fault
import SchemaPolicy.Proofs.Json
import SchemaPolicy.Proofs.Listing.Json
import SchemaPolicy.Proofs.CommandLine.Listing
import SchemaPolicy.Proofs.Declaration.Unused
import SchemaPolicy.Proofs.ExtraRule.Fault
import SchemaPolicy.Proofs.Ruleset.Rows
import SchemaPolicy.Proofs.Ruleset.Comment
import SchemaPolicy.Proofs.Text.LineBreak
import SchemaPolicy.Proofs.Ruleset.LineBreak
import SchemaPolicy.Proofs.Extraction.Log
import SchemaPolicy.Proofs.FileTree.Apart
import SchemaPolicy.Proofs.Project.Lookup
import SchemaPolicy.Proofs.Path.Steps
import SchemaPolicy.Proofs.Project.BaseDir
import SchemaPolicy.Proofs.CommandLine.Repetition
import SchemaPolicy.Proofs.Text.Levels
import SchemaPolicy.Proofs.Ruleset.Preamble
import SchemaPolicy.Proofs.Text.Cut
import SchemaPolicy.Proofs.Declaration.Declared
import SchemaPolicy.Proofs.Listing.Row
import SchemaPolicy.Proofs.Reader
import SchemaPolicy.Proofs.Toml.Distinct
import SchemaPolicy.Proofs.Toml.Settings
import SchemaPolicy.Proofs.Config.Reading
import SchemaPolicy.Proofs.ExtraRule.Reading
import SchemaPolicy.Proofs.Project.Reading
import SchemaPolicy.Proofs.FileTree.Steps
import SchemaPolicy.Proofs.CommandLine.Defaults
