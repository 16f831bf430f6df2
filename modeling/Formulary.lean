import Formulary.Calendar.Date
import Formulary.Calendar.Reading
import Formulary.Config
import Formulary.Display.Board
import Formulary.Display.Canvas
import Formulary.Display.Console
import Formulary.Display.FieldView
import Formulary.Display.FormView
import Formulary.Display.Key
import Formulary.Display.Screen
import Formulary.Display.Window
import Formulary.Display.Wrap
import Formulary.Form.Coercion
import Formulary.Form.Definition
import Formulary.Form.Error
import Formulary.Form.Graph
import Formulary.Form.Options
import Formulary.Form.Output
import Formulary.Form.Reader
import Formulary.Form.Refresh
import Formulary.Form.Schedule
import Formulary.Form.Session
import Formulary.Form.Shape
import Formulary.Form.State
import Formulary.Form.Submission
import Formulary.Form.Writer
import Formulary.Json.Basic
import Formulary.Json.Fault
import Formulary.Json.Printer
import Formulary.Json.Reader
import Formulary.Json.Shape
import Formulary.Launch
import Formulary.Main
import Formulary.Notice
import Formulary.Number.Binary64
import Formulary.Number.Decimal
import Formulary.Number.Whole
import Formulary.Preset
import Formulary.Proofs.Acceptance
import Formulary.Proofs.Accord
import Formulary.Proofs.Additions
import Formulary.Proofs.Agreement
import Formulary.Proofs.Arrows
import Formulary.Proofs.Base36
import Formulary.Proofs.Blanked
import Formulary.Proofs.Checked
import Formulary.Proofs.Choice
import Formulary.Proofs.Chosen
import Formulary.Proofs.Confined
import Formulary.Proofs.Contributions
import Formulary.Proofs.DateText
import Formulary.Proofs.Debounce
import Formulary.Proofs.Delivery
import Formulary.Proofs.Distance
import Formulary.Proofs.Document
import Formulary.Proofs.Edge
import Formulary.Proofs.Embedded
import Formulary.Proofs.Exact
import Formulary.Proofs.Fitted
import Formulary.Proofs.Focus
import Formulary.Proofs.Folding
import Formulary.Proofs.Gate
import Formulary.Proofs.Grammar
import Formulary.Proofs.JsonText
import Formulary.Proofs.JsonTree
import Formulary.Proofs.JsonValue
import Formulary.Proofs.JsonWord
import Formulary.Proofs.LastEdit
import Formulary.Proofs.Layout
import Formulary.Proofs.LeastOrder
import Formulary.Proofs.LevelOrder
import Formulary.Proofs.Levels
import Formulary.Proofs.Lexical
import Formulary.Proofs.Likeness
import Formulary.Proofs.Literal
import Formulary.Proofs.Magnitude
import Formulary.Proofs.Mapping
import Formulary.Proofs.Mention
import Formulary.Proofs.Mirror
import Formulary.Proofs.NamedForm
import Formulary.Proofs.NormalForm
import Formulary.Proofs.Numeral
import Formulary.Proofs.Offered
import Formulary.Proofs.Openable
import Formulary.Proofs.Order
import Formulary.Proofs.Outcome
import Formulary.Proofs.Outermost
import Formulary.Proofs.OwnValue
import Formulary.Proofs.Picked
import Formulary.Proofs.Present
import Formulary.Proofs.Quoted
import Formulary.Proofs.Reached
import Formulary.Proofs.Reaches
import Formulary.Proofs.ReadBack
import Formulary.Proofs.Reading
import Formulary.Proofs.Recorded
import Formulary.Proofs.Refused
import Formulary.Proofs.Renewal
import Formulary.Proofs.Rounding
import Formulary.Proofs.Run
import Formulary.Proofs.Saved
import Formulary.Proofs.Scanning
import Formulary.Proofs.Seam
import Formulary.Proofs.Settled
import Formulary.Proofs.ShortCircuit
import Formulary.Proofs.Shortest
import Formulary.Proofs.Slices
import Formulary.Proofs.Splice
import Formulary.Proofs.Splitting
import Formulary.Proofs.States
import Formulary.Proofs.Stored
import Formulary.Proofs.TextValue
import Formulary.Proofs.Told
import Formulary.Proofs.Touched
import Formulary.Proofs.Unfolded
import Formulary.Proofs.Upkeep
import Formulary.Proofs.Waves
import Formulary.Proofs.WithinLimits
import Formulary.Script.Builtin
import Formulary.Script.Error
import Formulary.Script.Eval
import Formulary.Script.Expr
import Formulary.Script.Lexer
import Formulary.Script.Parser
import Formulary.Script.Token
import Formulary.Script.Value
import Formulary.Template.Evaluate
import Formulary.Template.Parts
import Formulary.Template.Reference
import Formulary.Template.Resolve
import Formulary.Template.Store
import Formulary.Text.Blank
import Formulary.Text.Case
import Formulary.Text.Letter
import Formulary.Text.Lines
import Formulary.Text.Path
import Formulary.Text.Printable
import Formulary.Text.Search
import Formulary.Text.Width
import Formulary.Vault.Basic
import Formulary.Vault.FileTree
import Formulary.Vault.FrontMatter
import Formulary.Yaml.Block
import Formulary.Yaml.Cursor
import Formulary.Yaml.Lexer
import Formulary.Yaml.Node
import Formulary.Yaml.Parser
import Formulary.Yaml.Scalar
import Formulary.Yaml.Tag
import Formulary.Yaml.Token
import Formulary.Yaml.Value
