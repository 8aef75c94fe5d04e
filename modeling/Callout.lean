import Callout.Assembler
import Callout.Binary64.Basic
import Callout.Binary64.Shortest
import Callout.Catalog
import Callout.Cli.Arguments
import Callout.Cli.Listen
import Callout.Cli.Run
import Callout.Command
import Callout.Config.Basic
import Callout.Config.Document
import Callout.Config.File
import Callout.Emulator.Basic
import Callout.Error
import Callout.Grammar.Basic
import Callout.Grammar.Interpret
import Callout.Grammar.Match
import Callout.Grammar.Srgs
import Callout.Injector.Basic
import Callout.Injector.Recording
import Callout.Injector.Selection
import Callout.Injector.Ydotool
import Callout.Json.Basic
import Callout.Json.Printer
import Callout.Json.Reader
import Callout.Key
import Callout.Key.Operation
import Callout.Log
import Callout.Main
import Callout.Proofs.Agreement
import Callout.Proofs.Assembler
import Callout.Proofs.Assembler.Admission
import Callout.Proofs.Assembler.Ambiguity
import Callout.Proofs.Assembler.Closure
import Callout.Proofs.Assembler.Extension
import Callout.Proofs.Assembler.Language
import Callout.Proofs.Catalog
import Callout.Proofs.Catalog.Keys
import Callout.Proofs.Catalog.Phrases
import Callout.Proofs.Catalog.Utterance
import Callout.Proofs.Cli.Keys
import Callout.Proofs.Config
import Callout.Proofs.Emulator.Completion
import Callout.Proofs.Emulator.Order
import Callout.Proofs.Emulator.Run
import Callout.Proofs.Emulator.Performance
import Callout.Proofs.Emulator.Serial
import Callout.Proofs.Emulator.Stage
import Callout.Proofs.Emulator.Timing
import Callout.Proofs.Grammar.Derivation
import Callout.Proofs.Grammar.Document
import Callout.Proofs.Grammar.Interpretation
import Callout.Proofs.Grammar.Literal
import Callout.Proofs.Grammar.Nesting
import Callout.Proofs.Grammar.Reading
import Callout.Proofs.Grammar.Recognition
import Callout.Proofs.Grammar.Reference
import Callout.Proofs.Grammar.Rewriting
import Callout.Proofs.Grammar.Script
import Callout.Proofs.Grammar.Search
import Callout.Proofs.Grammar.Spelling
import Callout.Proofs.Injector
import Callout.Proofs.Listening
import Callout.Proofs.Lookup
import Callout.Proofs.Registry
import Callout.Proofs.Registry.Run
import Callout.Proofs.Semantics.Fields
import Callout.Proofs.Semantics.Fragments
import Callout.Proofs.Semantics.Joining
import Callout.Proofs.Semantics.Marker
import Callout.Proofs.Semantics.Rendering
import Callout.Proofs.Session
import Callout.Proofs.Session.Refusal
import Callout.Proofs.Session.Run
import Callout.Proofs.Slot
import Callout.Proofs.Slot.Addition
import Callout.Proofs.Slot.Run
import Callout.Proofs.Slot.Selection
import Callout.Proofs.Spoken
import Callout.Proofs.Text.Parser
import Callout.Proofs.Text.Runs
import Callout.Proofs.Text.Spelling
import Callout.Proofs.Text.Utf8
import Callout.Proofs.Text.Words
import Callout.Proofs.Toml.Document
import Callout.Proofs.Toml.Escapes
import Callout.Proofs.Toml.Lines
import Callout.Proofs.Toml.Number
import Callout.Proofs.Toml.Quoting
import Callout.Proofs.Toml.Scalar
import Callout.Proofs.Toml.Sections
import Callout.Proofs.Toml.Table
import Callout.Proofs.Xml.Document
import Callout.Proofs.Xml.Entities
import Callout.Proofs.Xml.Markup
import Callout.Proofs.Xml.Tree
import Callout.Registry
import Callout.Semantics.Basic
import Callout.Session.Basic
import Callout.Session.Report
import Callout.Slot
import Callout.Text.Alphanumeric
import Callout.Text.AlphanumericTable
import Callout.Text.CaseTable
import Callout.Text.Digits
import Callout.Text.Lowercase
import Callout.Text.Parser
import Callout.Text.PrintableTable
import Callout.Text.Quoted
import Callout.Text.Space
import Callout.Text.Utf8
import Callout.Text.Words
import Callout.Toml.Basic
import Callout.Toml.Datetime
import Callout.Toml.Number
import Callout.Toml.Printer
import Callout.Toml.Reader
import Callout.Toml.Table
import Callout.Toml.Text
import Callout.Xml.Basic
