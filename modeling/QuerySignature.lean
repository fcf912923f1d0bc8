import QuerySignature.Binding.Document
import QuerySignature.Binding.Render
import QuerySignature.Binding.Substitute
import QuerySignature.Command.Arguments
import QuerySignature.Command.Run
import QuerySignature.Error
import QuerySignature.Json.Basic
import QuerySignature.Json.Lexeme
import QuerySignature.Json.Parser
import QuerySignature.Json.Printer
import QuerySignature.Limits
import QuerySignature.Main
import QuerySignature.Number.Binary
import QuerySignature.Number.Shortest
import QuerySignature.Proofs.Binding.Rendering
import QuerySignature.Proofs.Binding.Splice
import QuerySignature.Proofs.Query.Like
import QuerySignature.Proofs.Reading.Expressions
import QuerySignature.Proofs.Reading.Groups
import QuerySignature.Proofs.Reading.Likeness
import QuerySignature.Proofs.Reading.Nesting
import QuerySignature.Proofs.Reading.Repetition
import QuerySignature.Proofs.Reading.Terms
import QuerySignature.Proofs.Reading.Tracks
import QuerySignature.Proofs.Reading.Values
import QuerySignature.Proofs.Signature.Blocks
import QuerySignature.Proofs.Text.Upper
import QuerySignature.Proofs.Token.Cut
import QuerySignature.Proofs.Token.Exchange
import QuerySignature.Proofs.Token.Extent
import QuerySignature.Proofs.Token.Head
import QuerySignature.Proofs.Token.Layout
import QuerySignature.Proofs.Token.Place
import QuerySignature.Proofs.Token.Segment
import QuerySignature.Query.Literal
import QuerySignature.Query.Pattern
import QuerySignature.Query.Term
import QuerySignature.Reading.Basic
import QuerySignature.Reading.Block
import QuerySignature.Reading.Expression
import QuerySignature.Reading.Group
import QuerySignature.Reading.Inversion
import QuerySignature.Reading.Modifiers
import QuerySignature.Reading.Nesting
import QuerySignature.Reading.Path
import QuerySignature.Reading.Query
import QuerySignature.Reading.Term
import QuerySignature.Reading.Triples
import QuerySignature.Reading.Values
import QuerySignature.Report.Markup
import QuerySignature.Report.Table
import QuerySignature.Settings.Basic
import QuerySignature.Settings.Store
import QuerySignature.Settings.World
import QuerySignature.Signature.Blocks
import QuerySignature.Signature.Outputs
import QuerySignature.Signature.Parameters
import QuerySignature.Text.Alphanumeric
import QuerySignature.Text.Basic
import QuerySignature.Text.Blank
import QuerySignature.Text.Decimal
import QuerySignature.Text.Emoji
import QuerySignature.Text.EmojiTable
import QuerySignature.Text.Hexadecimal
import QuerySignature.Text.Numeral
import QuerySignature.Text.Printable
import QuerySignature.Text.Quoted
import QuerySignature.Text.Upper
import QuerySignature.Text.Width
import QuerySignature.Token.Basic
import QuerySignature.Token.Lexeme
import QuerySignature.Token.Scan
import QuerySignature.Proofs.Token.Alone
import QuerySignature.Proofs.Token.Unclosed
import QuerySignature.Proofs.Orderly.Brackets
import QuerySignature.Proofs.Orderly.Terms
import QuerySignature.Proofs.Orderly.Expressions
import QuerySignature.Proofs.Orderly.Groups
import QuerySignature.Proofs.Outcome.Run
import QuerySignature.Proofs.Outcome.Causal
import QuerySignature.Proofs.Outcome.Nesting
import QuerySignature.Proofs.Outcome.Ceilings
import QuerySignature.Proofs.Query.Escapes
import QuerySignature.Proofs.Token.Words
import QuerySignature.Proofs.Outcome.Settled
import QuerySignature.Proofs.Binding.Strings
import QuerySignature.Proofs.Binding.Cells
import QuerySignature.Proofs.Binding.Written
import QuerySignature.Proofs.Binding.Refilled
import QuerySignature.Proofs.WellFormed.Queries
import QuerySignature.Proofs.Bounded.Readers
import QuerySignature.Proofs.Outcome.Sequence
import QuerySignature.Proofs.Token.Spacing
import QuerySignature.Proofs.Token.Relaid
import QuerySignature.Proofs.Query.Unplaced
import QuerySignature.Proofs.Outcome.Moved
import QuerySignature.Proofs.Token.Enclosed
import QuerySignature.Proofs.Signature.Outputs
import QuerySignature.Proofs.Outcome.Enclosed
import QuerySignature.Proofs.Binding.ReadBack
import QuerySignature.Proofs.WellFormed.Blocks
import QuerySignature.Proofs.Settings.Atomic
import QuerySignature.Proofs.Query.Literals
import QuerySignature.Proofs.Query.Unquoted
import QuerySignature.Proofs.Token.Ending
import QuerySignature.Proofs.Query.Reread
import QuerySignature.Proofs.Paired.Brackets
import QuerySignature.Proofs.Paired.Rules
import QuerySignature.Proofs.Paired.Pieces
import QuerySignature.Proofs.Paired.Readers
import QuerySignature.Proofs.Paired.Expressions
import QuerySignature.Proofs.Reading.Unrolled
import QuerySignature.Proofs.Path.Grammar
import QuerySignature.Proofs.Path.Sentences
import QuerySignature.Proofs.Triples.Detached
import QuerySignature.Proofs.Triples.Abbreviations
import QuerySignature.Proofs.Query.Flipped
import QuerySignature.Proofs.Signs.Shielded
import QuerySignature.Proofs.Signs.Rules
import QuerySignature.Proofs.Signs.Terms
import QuerySignature.Proofs.Signs.Triples
import QuerySignature.Proofs.Signs.Expressions
import QuerySignature.Proofs.Signs.Modifiers
import QuerySignature.Proofs.Signs.Groups
import QuerySignature.Proofs.Signs.Queries
import QuerySignature.Proofs.Spaced.Words
import QuerySignature.Proofs.Spaced.Cut
import QuerySignature.Proofs.Spaced.Rules
import QuerySignature.Proofs.Spaced.Terms
import QuerySignature.Proofs.Spaced.Calls
import QuerySignature.Proofs.Spaced.Expressions
import QuerySignature.Proofs.Spaced.Groups
import QuerySignature.Proofs.Spaced.Filters
import QuerySignature.Proofs.Signature.Occurrences
import QuerySignature.Proofs.Values.Sentences
import QuerySignature.Proofs.Groups.Detached
import QuerySignature.Proofs.Groups.Sentences
import QuerySignature.Proofs.Modifiers.Items
import QuerySignature.Proofs.Modifiers.Sentences
import QuerySignature.Proofs.Query.Blurred
import QuerySignature.Proofs.Outcome.Respelt
import QuerySignature.Proofs.Labels.Rules
import QuerySignature.Proofs.Labels.Terms
import QuerySignature.Proofs.Labels.Groups
import QuerySignature.Proofs.Labels.Queries
import QuerySignature.Proofs.Origin.Rules
import QuerySignature.Proofs.Origin.Trees
import QuerySignature.Proofs.Origin.Queries
import QuerySignature.Proofs.Origin.Bracketed
import QuerySignature.Proofs.Path.Neighbours
import QuerySignature.Proofs.Path.Glued
import QuerySignature.Proofs.Path.Reread
import QuerySignature.Proofs.Binding.Documents
import QuerySignature.Proofs.Binding.Alike
import QuerySignature.Proofs.Json.Keyed
import QuerySignature.Proofs.Settings.Layers
import QuerySignature.Proofs.Advancing.Rules
import QuerySignature.Proofs.Advancing.Readers
import QuerySignature.Proofs.Advancing.Procedures
import QuerySignature.Proofs.Lookahead.Rules
import QuerySignature.Proofs.Lookahead.Procedures
import QuerySignature.Proofs.Lookahead.Loops
