import StyleFold.Main
import StyleFold.Walk.Script
import StyleFold.Data.Failure
import StyleFold.Proofs.Fold.Grammar
import StyleFold.Proofs.Fold.Precision
import StyleFold.Proofs.Fold.Refinement
import StyleFold.Proofs.Fold.Replacement
import StyleFold.Proofs.Fold.Shape
import StyleFold.Proofs.Fold.Shift
import StyleFold.Proofs.Fold.Totality
import StyleFold.Proofs.Scope
import StyleFold.Proofs.Style.Conduct
import StyleFold.Proofs.Style.Omission
import StyleFold.Proofs.Style.Position
import StyleFold.Proofs.Style.Provenance
import StyleFold.Proofs.Style.Scopes
import StyleFold.Proofs.Style.Shift
import StyleFold.Proofs.Tree.Shift
import StyleFold.Proofs.Walk.Agenda
import StyleFold.Proofs.Walk.Course
import StyleFold.Proofs.Walk.Coverage
import StyleFold.Proofs.Walk.Inheritance
import StyleFold.Proofs.Walk.Interruption
import StyleFold.Proofs.Walk.Lineage
import StyleFold.Proofs.Walk.Omission
import StyleFold.Proofs.Walk.Pair
import StyleFold.Proofs.Walk.Shift
import StyleFold.Proofs.Walk.SourceOrder
import StyleFold.Proofs.Style.Shadowing
import StyleFold.Proofs.Fold.Contribution
import StyleFold.Proofs.Fold.Spread
import StyleFold.Proofs.Style.Specifiers
import StyleFold.Proofs.Style.Bindings
import StyleFold.Proofs.Fold.Exchange
import StyleFold.Proofs.Walk.Exchange
import StyleFold.Proofs.Style.Exchange
import StyleFold.Proofs.Style.Wrapping
import StyleFold.Proofs.Value.Order
import StyleFold.Proofs.Fold.UnknownSpread
import StyleFold.Proofs.Fold.Template
import StyleFold.Proofs.Fold.Unwrapping
import StyleFold.Proofs.Number.Double
import StyleFold.Proofs.Number.Word
import StyleFold.Proofs.Number.Bigint
import StyleFold.Proofs.Value.Equality
import StyleFold.Proofs.Value.Less
import StyleFold.Proofs.Number.Layout
import StyleFold.Proofs.Value.Integer
import StyleFold.Proofs.Value.Text
import StyleFold.Proofs.Style.Finding
import StyleFold.Proofs.Style.Declaration
import StyleFold.Proofs.Style.Selector
import StyleFold.Proofs.Style.Naming
import StyleFold.Proofs.Settings
import StyleFold.Proofs.Style.Hyphen
import StyleFold.Proofs.Fold.Origin
import StyleFold.Proofs.Style.Block
import StyleFold.Proofs.Walk.Arrangement
import StyleFold.Proofs.Fold.Index
import StyleFold.Proofs.Literal
