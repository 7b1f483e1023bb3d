import ScriptBinding.Assembly.Accessor
import ScriptBinding.Assembly.Plan
import ScriptBinding.Assembly.Registrations
import ScriptBinding.Assembly.Report
import ScriptBinding.Call.Message
import ScriptBinding.Call.Operator
import ScriptBinding.Call.Plan
import ScriptBinding.Call.Trace
import ScriptBinding.CommandLine.Arguments
import ScriptBinding.CommandLine.Disk
import ScriptBinding.CommandLine.Pipeline
import ScriptBinding.CommandLine.Run
import ScriptBinding.Glue.Backend
import ScriptBinding.Glue.Generate
import ScriptBinding.Glue.Header
import ScriptBinding.Glue.Routines
import ScriptBinding.Glue.Source
import ScriptBinding.Glue.Statement
import ScriptBinding.Interface.Basic
import ScriptBinding.Interface.Check
import ScriptBinding.Interface.Load
import ScriptBinding.Interface.Path
import ScriptBinding.Interface.Report
import ScriptBinding.Json.Basic
import ScriptBinding.Json.Reader
import ScriptBinding.Json.Writer
import ScriptBinding.Layout.Code
import ScriptBinding.Layout.Emitter
import ScriptBinding.Main
import ScriptBinding.Numeral.Binary64
import ScriptBinding.Numeral.Shortest
import ScriptBinding.Text.Blank
import ScriptBinding.Text.CaseTable
import ScriptBinding.Text.CodePoint
import ScriptBinding.Text.Identifier
import ScriptBinding.Text.LetterCase
import ScriptBinding.Text.Quoted
import ScriptBinding.Text.SnakeCase
import ScriptBinding.Text.Utf8
import ScriptBinding.Proofs.Interface.WellFormed
import ScriptBinding.Proofs.Call.Chain
import ScriptBinding.Proofs.Call.Planned
import ScriptBinding.Proofs.Layout.Lines
import ScriptBinding.Proofs.Text.Literal
import ScriptBinding.Proofs.Callback.Machine
import ScriptBinding.Proofs.Callback.Reader
import ScriptBinding.Proofs.Callback.Forms
import ScriptBinding.Proofs.Callback.Body
import ScriptBinding.Proofs.Callback.Chain
import ScriptBinding.Proofs.Callback.Plan
import ScriptBinding.Proofs.Callback.Meaning
import ScriptBinding.Proofs.Interface.Loading
import ScriptBinding.Proofs.Interface.Representable
import ScriptBinding.Proofs.Interface.RoundTrip
import ScriptBinding.Proofs.Assembly.Planned
import ScriptBinding.Proofs.Layout.Blocks
import ScriptBinding.Proofs.Text.Words
import ScriptBinding.Proofs.Unit.Contents
import ScriptBinding.Proofs.Callback.Calls
import ScriptBinding.Proofs.Unit.Bodies
import ScriptBinding.Proofs.Unit.CallbackNames
import ScriptBinding.Proofs.Unit.EntryPoints
import ScriptBinding.Proofs.Unit.Tables
import ScriptBinding.Proofs.Unit.Scopes
import ScriptBinding.Proofs.Interface.Names
import ScriptBinding.Proofs.Unit.Generation
import ScriptBinding.Proofs.CommandLine.Places
import ScriptBinding.Proofs.CommandLine.Delivery
import ScriptBinding.Proofs.CommandLine.GeneratedFiles
import ScriptBinding.Proofs.Json.Strings
import ScriptBinding.Proofs.Json.Reading
import ScriptBinding.Proofs.Json.Values
import ScriptBinding.Proofs.Interface.Legible
import ScriptBinding.Proofs.CommandLine.LoadReport
import ScriptBinding.Proofs.Text.CodePoint
import ScriptBinding.Proofs.Text.Casing
import ScriptBinding.Proofs.Unit.Guards
import ScriptBinding.Proofs.Unit.WrapperClass
import ScriptBinding.Proofs.Json.Same
import ScriptBinding.Proofs.Assembly.Shown
import ScriptBinding.Proofs.Unit.Rendering
import ScriptBinding.Proofs.CommandLine.Faults
import ScriptBinding.Proofs.Interface.Paths
import ScriptBinding.Proofs.Interface.Schema
import ScriptBinding.Proofs.Interface.Judging
import ScriptBinding.Proofs.Interface.LoadErrors
import ScriptBinding.Proofs.Layout.Steps
import ScriptBinding.Proofs.Unit.Reuse
import ScriptBinding.Proofs.Text.Brackets
import ScriptBinding.Proofs.Layout.Nesting
import ScriptBinding.Proofs.Callback.Nesting
import ScriptBinding.Proofs.Unit.Nesting
import ScriptBinding.Proofs.Interface.Breaches
import ScriptBinding.Proofs.Interface.Reported
import ScriptBinding.Proofs.Assembly.AnyOperators
import ScriptBinding.Proofs.Text.Lines
import ScriptBinding.Proofs.Layout.Alphabet
import ScriptBinding.Proofs.Callback.Alphabet
import ScriptBinding.Proofs.Unit.Alphabet
import ScriptBinding.Proofs.Unit.FileLines
import ScriptBinding.Proofs.CommandLine.Encoding
import ScriptBinding.Proofs.Assembly.Merging
import ScriptBinding.Proofs.Call.Optional
import ScriptBinding.Proofs.Interface.Placement
import ScriptBinding.Proofs.Unit.Strictness
import ScriptBinding.Proofs.CommandLine.Groups
import ScriptBinding.Proofs.CommandLine.Reordering
import ScriptBinding.Proofs.Unit.Setters
import ScriptBinding.Proofs.Text.Boundaries
import ScriptBinding.Proofs.Text.Escapes
import ScriptBinding.Proofs.Call.Unambiguous
import ScriptBinding.Proofs.Layout.Routines
import ScriptBinding.Proofs.CommandLine.Runs
import ScriptBinding.Proofs.Text.Directives
