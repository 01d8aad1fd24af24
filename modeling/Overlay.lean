import Overlay.Code.Decoding
import Overlay.Condition.Evaluation
import Overlay.Json.Reader
import Overlay.Main
import Overlay.Proofs.Outcome
import Overlay.Proofs.Call
import Overlay.Proofs.Text.Leading
import Overlay.Proofs.Condition.Reading
import Overlay.Proofs.Condition.RoundTrip
import Overlay.Proofs.Keyed
import Overlay.Proofs.Rule.Reading
import Overlay.Proofs.Rule.Resolution
import Overlay.Proofs.Description
import Overlay.Proofs.Code.Integrity
import Overlay.Proofs.Text.Blank
import Overlay.Proofs.Text.Bracket
import Overlay.Proofs.Text.Split
import Overlay.Proofs.Condition.Shape
import Overlay.Proofs.Condition.Grammar
import Overlay.Proofs.Spacing.Units
import Overlay.Proofs.Spacing.Parts
import Overlay.Proofs.Spacing.Call
import Overlay.Proofs.Spacing.Condition
import Overlay.Proofs.Spacing.Processing
import Overlay.Proofs.Relocation
import Overlay.Proofs.Spacing.Declaration
import Overlay.Proofs.Spacing.Rule
import Overlay.Proofs.Outline.Content
import Overlay.Proofs.Outline.Passage
import Overlay.Proofs.Outline.Items
import Overlay.Proofs.Outline.Block
import Overlay.Proofs.Spacing.Gap
import Overlay.Proofs.Break.Content
import Overlay.Proofs.Break.Opening
import Overlay.Proofs.Break.Blocks
import Overlay.Proofs.Break.Passage
import Overlay.Proofs.Break.Item
import Overlay.Proofs.Break.Description
import Overlay.Proofs.Break.Place
import Overlay.Proofs.Break.Code
import Overlay.Proofs.Layout.Agreement
import Overlay.Proofs.Layout.Items
import Overlay.Proofs.Layout.Description
import Overlay.Proofs.Layout.Code
import Overlay.Proofs.Outline.Cut
import Overlay.Proofs.Text.Joined
import Overlay.Proofs.Text.Stray
import Overlay.Proofs.Text.Nesting
import Overlay.Proofs.Text.Segments
import Overlay.Proofs.Text.Cut
import Overlay.Proofs.Outline.Division
import Overlay.Proofs.Coverage
import Overlay.Proofs.Blame.Lines
import Overlay.Proofs.Blame.Description
import Overlay.Proofs.Checks.Processing
import Overlay.Proofs.Checks.Rule
import Overlay.Proofs.Checks.Description
import Overlay.Proofs.Code.Gathering
import Overlay.Proofs.Condition.Value
import Overlay.Proofs.Reorder.Order
import Overlay.Proofs.Reorder.Rules
import Overlay.Proofs.Reorder.Items
import Overlay.Proofs.Reorder.State
import Overlay.Proofs.Reorder.Code
import Overlay.Proofs.Code.Form
import Overlay.Proofs.Code.Format
import Overlay.Proofs.Text.Comment
import Overlay.Proofs.Text.QuotePlaces
import Overlay.Proofs.StringLiteral
import Overlay.Proofs.Number.Rounding
import Overlay.Proofs.Condition.Comparison
import Overlay.Proofs.Condition.Range
import Overlay.Proofs.Outline.Depth
import Overlay.Proofs.Failure.Basic
import Overlay.Proofs.Failure.Call
import Overlay.Proofs.Failure.Condition
import Overlay.Proofs.Failure.Processing
import Overlay.Proofs.Failure.Declaration
import Overlay.Proofs.Failure.Rule
import Overlay.Proofs.Failure.Item
import Overlay.Proofs.Failure.Description
import Overlay.Proofs.Failure.Code
import Overlay.Proofs.Failure.Scan
import Overlay.Proofs.Text.Pieces
import Overlay.Proofs.Rule.Chain
import Overlay.Proofs.Rule.Exchange
import Overlay.Proofs.Rule.Call
import Overlay.Proofs.Rule.Merge
import Overlay.Proofs.Condition.Written
import Overlay.Proofs.Condition.Negation
import Overlay.Proofs.Condition.State
import Overlay.Proofs.Rule.Trigger
import Overlay.Proofs.Guard
import Overlay.Proofs.Outline.Guard
import Overlay.Proofs.Arguments
import Overlay.Proofs.Numeral
import Overlay.Proofs.Condition.Form
import Overlay.Proofs.Condition.Rendering
import Overlay.Proofs.Attribute
import Overlay.Proofs.DataNames
import Overlay.Proofs.Outline.Slice
import Overlay.Proofs.LiteralType
import Overlay.Proofs.Rule.Link
import Overlay.Proofs.Instant
import Overlay.Proofs.TimeWindow
