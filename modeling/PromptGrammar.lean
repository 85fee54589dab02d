import PromptGrammar.Chat
import PromptGrammar.Decimal.Binary64
import PromptGrammar.Decimal.Layout
import PromptGrammar.Decimal.Shortest
import PromptGrammar.Entries
import PromptGrammar.Files.Path
import PromptGrammar.Files.Tree
import PromptGrammar.Grammar.Basic
import PromptGrammar.Grammar.Prompt
import PromptGrammar.Grammar.Retrieval
import PromptGrammar.Grammar.Tools
import PromptGrammar.Grammar.Turns
import PromptGrammar.Grammar.Wording
import PromptGrammar.Json.Ascii
import PromptGrammar.Json.Basic
import PromptGrammar.Json.Display
import PromptGrammar.Json.Reader
import PromptGrammar.Json.Writer
import PromptGrammar.Library.Catalogue
import PromptGrammar.Library.LazyMap
import PromptGrammar.Logging.Console
import PromptGrammar.Logging.Journal
import PromptGrammar.Logging.Record
import PromptGrammar.Logging.Run
import PromptGrammar.Message.Basic
import PromptGrammar.Message.Schema
import PromptGrammar.Schema.Checked
import PromptGrammar.Schema.Issue
import PromptGrammar.Search.Provider
import PromptGrammar.Search.Result
import PromptGrammar.Search.Summary
import PromptGrammar.Settings.Basic
import PromptGrammar.Settings.Datum
import PromptGrammar.Settings.Number
import PromptGrammar.Settings.Sources
import PromptGrammar.Template
import PromptGrammar.Text.Blank
import PromptGrammar.Text.Cased
import PromptGrammar.Text.Digit
import PromptGrammar.Text.Hex
import PromptGrammar.Text.Lower
import PromptGrammar.Text.Occurrence
import PromptGrammar.Text.Point
import PromptGrammar.Text.Printable
import PromptGrammar.Text.Quoted
import PromptGrammar.Toml.Basic
import PromptGrammar.Toml.Document
import PromptGrammar.Toml.Number
import PromptGrammar.Toml.Reader
import PromptGrammar.Toml.Text
import PromptGrammar.Toml.Writer
import PromptGrammar.Tool
import PromptGrammar.Workspace
import PromptGrammar.Proofs.Grammar.Turn
import PromptGrammar.Proofs.Text.Trim
import PromptGrammar.Proofs.Grammar.History
import PromptGrammar.Proofs.Grammar.Prompt
import PromptGrammar.Proofs.Grammar.Retrieval
import PromptGrammar.Proofs.Text.Mark
import PromptGrammar.Proofs.Grammar.Unambiguous
import PromptGrammar.Proofs.Text.Digits
import PromptGrammar.Proofs.Toml.Text
import PromptGrammar.Proofs.Toml.Value
import PromptGrammar.Proofs.Toml.Line
import PromptGrammar.Proofs.Toml.RoundTrip
import PromptGrammar.Proofs.Settings.Environment
import PromptGrammar.Proofs.Settings.File
import PromptGrammar.Proofs.Files.Write
import PromptGrammar.Proofs.Settings.RoundTrip
import PromptGrammar.Proofs.Json.Literal
import PromptGrammar.Proofs.Json.Layout
import PromptGrammar.Proofs.Json.Number
import PromptGrammar.Proofs.Json.NumberLayout
import PromptGrammar.Proofs.Grammar.Failure
import PromptGrammar.Proofs.Grammar.SystemPrompt
import PromptGrammar.Proofs.Chat
import PromptGrammar.Proofs.Grammar.Noninterference
import PromptGrammar.Proofs.Logging.Handlers
import PromptGrammar.Proofs.Logging.Levels
import PromptGrammar.Proofs.Logging.Raising
import PromptGrammar.Proofs.Logging.Tree
import PromptGrammar.Proofs.Library.Arrivals
import PromptGrammar.Proofs.Library.History
import PromptGrammar.Proofs.Toml.Distinct
import PromptGrammar.Proofs.Settings.Sections
import PromptGrammar.Proofs.Settings.Precedence
import PromptGrammar.Proofs.Schema.Shape
import PromptGrammar.Proofs.Message.Acceptance
import PromptGrammar.Proofs.Grammar.Extraction
import PromptGrammar.Proofs.Grammar.Growth
import PromptGrammar.Proofs.Grammar.ToolPrompt
import PromptGrammar.Proofs.Tool.Layouts
import PromptGrammar.Proofs.Message.RoundTrip
import PromptGrammar.Proofs.Grammar.Spelling
import PromptGrammar.Proofs.Message.Declared
import PromptGrammar.Proofs.Grammar.Concatenation
import PromptGrammar.Proofs.Search.Parsing
import PromptGrammar.Proofs.Search.FieldText
import PromptGrammar.Proofs.Toml.Serialized
import PromptGrammar.Proofs.Settings.Replacement
import PromptGrammar.Proofs.Settings.LimitTexts
import PromptGrammar.Proofs.Search.Clipping
import PromptGrammar.Proofs.Search.Summary
