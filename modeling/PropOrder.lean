import PropOrder.Request
import PropOrder.TrailingReturn
import PropOrder.Proofs.Order.Sorted
import PropOrder.Proofs.Outcome
import PropOrder.Proofs.Tree
import PropOrder.Proofs.WellFormed.Form
import PropOrder.Proofs.WellFormed.Conversion
import PropOrder.Proofs.Surface
import PropOrder.Proofs.Surface.Boundary
import PropOrder.Proofs.Surface.Multiplicity
import PropOrder.Proofs.Order.Blame
import PropOrder.Proofs.Binding
import PropOrder.Proofs.Component
import PropOrder.Proofs.Inspection
import PropOrder.Proofs.Document
import PropOrder.Proofs.Inspection.Route
import PropOrder.Proofs.Comments
import PropOrder.Proofs.Declaration
import PropOrder.Proofs.Declaration.Key
import PropOrder.Proofs.Document.Complete
import PropOrder.Proofs.Document.Total
import PropOrder.Proofs.Order.Layers
import PropOrder.Proofs.Text.Spelling
import PropOrder.Proofs.Text.Escape
import PropOrder.Proofs.Text.Surrogate
import PropOrder.Proofs.Scope
import PropOrder.Proofs.Token
import PropOrder.Proofs.Assembly.Linked
import PropOrder.Proofs.Assembly.Named
import PropOrder.Proofs.Token.Before
import PropOrder.Proofs.Token.Line
import PropOrder.Proofs.Surface.Trailing
import PropOrder.Proofs.Component.Markup
import PropOrder.Proofs.Binding.Nearest
import PropOrder.Proofs.Numeral
import PropOrder.Proofs.Document.Shape
import PropOrder.Proofs.Nesting.Conversion
import PropOrder.Proofs.Binding.Shadow
import PropOrder.Proofs.Tree.Walk
import PropOrder.Proofs.Token.LookBack
