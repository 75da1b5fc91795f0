import DesignProps.Binary64.Basic
import DesignProps.Binary64.Nearest
import DesignProps.Binary64.Shortest
import DesignProps.CommandLine.Arguments
import DesignProps.CommandLine.Run
import DesignProps.Config.Basic
import DesignProps.Config.Check
import DesignProps.Config.File
import DesignProps.Config.Settings
import DesignProps.Console.Cells
import DesignProps.Console.Color
import DesignProps.Console.Emoji
import DesignProps.Console.Emoji.Names
import DesignProps.Console.Fit
import DesignProps.Console.Literal
import DesignProps.Console.Literal.Token
import DesignProps.Console.Marked
import DesignProps.Console.Markup
import DesignProps.Console.Pieces
import DesignProps.Console.Printed
import DesignProps.Console.Rows
import DesignProps.Console.Style
import DesignProps.Console.Table
import DesignProps.Console.Width
import DesignProps.Decimal
import DesignProps.Document.Index
import DesignProps.Document.Node
import DesignProps.Fault
import DesignProps.Files
import DesignProps.Formatting
import DesignProps.Highlight.Code
import DesignProps.Highlight.Lexer
import DesignProps.Highlight.Message
import DesignProps.Highlight.Page
import DesignProps.Highlight.Script
import DesignProps.Highlight.Script.Name
import DesignProps.Highlight.Sheet
import DesignProps.Highlight.Sheet.Words
import DesignProps.Json.Basic
import DesignProps.Json.Display
import DesignProps.Json.Map
import DesignProps.Json.Reader
import DesignProps.Json.Writer
import DesignProps.Key
import DesignProps.Key.Order
import DesignProps.Loading
import DesignProps.LogLevel
import DesignProps.Main
import DesignProps.Model.Basic
import DesignProps.Model.Builder
import DesignProps.Naming.Labels
import DesignProps.Naming.Sanitizer
import DesignProps.Naming.Words
import DesignProps.Notice
import DesignProps.Number
import DesignProps.Number.Literal
import DesignProps.OrderedMap
import DesignProps.Primitive
import DesignProps.Primitive.Coercion
import DesignProps.Proofs.Binary64.Decimal
import DesignProps.Proofs.Binary64.Nearest
import DesignProps.Proofs.CommandLine.Agreement
import DesignProps.Proofs.CommandLine.Input
import DesignProps.Proofs.CommandLine.Unread
import DesignProps.Proofs.Config.Layers
import DesignProps.Proofs.Config.Overrides
import DesignProps.Proofs.Config.Routes
import DesignProps.Proofs.Config.Saved
import DesignProps.Proofs.Document.Complete
import DesignProps.Proofs.Document.Links
import DesignProps.Proofs.Document.Mapped
import DesignProps.Proofs.Document.Outermost
import DesignProps.Proofs.Document.Places
import DesignProps.Proofs.Document.Reach
import DesignProps.Proofs.Document.Reading
import DesignProps.Proofs.Document.Regular
import DesignProps.Proofs.Document.Reordered
import DesignProps.Proofs.Document.Respelled
import DesignProps.Proofs.Document.Retyped
import DesignProps.Proofs.Document.Trees
import DesignProps.Proofs.Files
import DesignProps.Proofs.Formatting.Degraded
import DesignProps.Proofs.Formatting.MainComponents
import DesignProps.Proofs.Formatting.Retyped
import DesignProps.Proofs.Formatting.SwapNames
import DesignProps.Proofs.Json.Characters
import DesignProps.Proofs.Json.Layout
import DesignProps.Proofs.Json.OneLine
import DesignProps.Proofs.Json.Scalars
import DesignProps.Proofs.Json.Written
import DesignProps.Proofs.Key.Order
import DesignProps.Proofs.Loading
import DesignProps.Proofs.Model.AtDefaults
import DesignProps.Proofs.Model.Built
import DesignProps.Proofs.Model.Coherent
import DesignProps.Proofs.Model.Content
import DesignProps.Proofs.Model.History
import DesignProps.Proofs.Model.Kinds
import DesignProps.Proofs.Model.References
import DesignProps.Proofs.Model.Regular
import DesignProps.Proofs.Model.Respelled
import DesignProps.Proofs.Model.Run
import DesignProps.Proofs.Naming.Capitals
import DesignProps.Proofs.Naming.Memo
import DesignProps.Proofs.Naming.Rewritten
import DesignProps.Proofs.Naming.Spelling
import DesignProps.Proofs.Naming.Tickets
import DesignProps.Proofs.Number.Characters
import DesignProps.Proofs.Number.Digits
import DesignProps.Proofs.Number.Grammar
import DesignProps.Proofs.Number.Literal
import DesignProps.Proofs.Number.Spelling
import DesignProps.Proofs.Number.Value
import DesignProps.Proofs.Number.Written
import DesignProps.Proofs.OrderedMap
import DesignProps.Proofs.OrderedMap.Mapped
import DesignProps.Proofs.OrderedMap.Merged
import DesignProps.Proofs.Primitive.Bounded
import DesignProps.Proofs.Primitive.ReadBack
import DesignProps.Proofs.Primitive.RoundTrip
import DesignProps.Proofs.Property.Kinds
import DesignProps.Proofs.Property.Names
import DesignProps.Proofs.Property.Options
import DesignProps.Proofs.Property.Regular
import DesignProps.Proofs.Property.Reordered
import DesignProps.Proofs.Property.Retyped
import DesignProps.Proofs.Reference.Bindings
import DesignProps.Proofs.Reference.Indexed
import DesignProps.Proofs.Reference.Merge
import DesignProps.Proofs.Reference.Present
import DesignProps.Proofs.Registry.Calls
import DesignProps.Proofs.Registry.Registrations
import DesignProps.Proofs.Script.StringLiteral
import DesignProps.Proofs.Sorting.Halving
import DesignProps.Proofs.Target.AttributeShapes
import DesignProps.Proofs.Target.AttributeText
import DesignProps.Proofs.Target.Bare
import DesignProps.Proofs.Target.Batch
import DesignProps.Proofs.Target.BlockLines
import DesignProps.Proofs.Target.Content
import DesignProps.Proofs.Target.Defaults
import DesignProps.Proofs.Target.Definitions
import DesignProps.Proofs.Target.Hidden
import DesignProps.Proofs.Target.Omission
import DesignProps.Proofs.Target.OneLine
import DesignProps.Proofs.Target.Private
import DesignProps.Proofs.Target.Reordered
import DesignProps.Proofs.Target.Stubs
import DesignProps.Proofs.Target.Success
import DesignProps.Proofs.Target.TextSlots
import DesignProps.Proofs.Target.Toggles
import DesignProps.Proofs.Target.UnionAliases
import DesignProps.Proofs.Target.UnionTypes
import DesignProps.Proofs.Text.CharacterReference
import DesignProps.Proofs.Text.Utf8
import DesignProps.Proofs.Traversal
import DesignProps.Property.Basic
import DesignProps.Property.Normalize
import DesignProps.Reference.Bindings
import DesignProps.Reference.Map
import DesignProps.Registry
import DesignProps.Sorting
import DesignProps.Sorting.Halving
import DesignProps.Target.Attribute
import DesignProps.Target.Basic
import DesignProps.Target.Block
import DesignProps.Target.Declaration
import DesignProps.Target.Element
import DesignProps.Target.Generation
import DesignProps.Target.Indent
import DesignProps.Target.Instance
import DesignProps.Target.Output
import DesignProps.Target.Preset
import DesignProps.Target.Slot
import DesignProps.Target.Template
import DesignProps.Text.Blank
import DesignProps.Text.Case
import DesignProps.Text.CharacterName
import DesignProps.Text.CharacterName.Table
import DesignProps.Text.Digit
import DesignProps.Text.Identifier
import DesignProps.Text.Lines
import DesignProps.Text.Pattern
import DesignProps.Text.Printable
import DesignProps.Text.Quoted
import DesignProps.Text.Ranges
import DesignProps.Text.Split
import DesignProps.Text.Utf8
import DesignProps.Text.WordChar
import DesignProps.Url
import DesignProps.Url.Host
