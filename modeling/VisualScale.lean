import VisualScale.Number.Shortest
import VisualScale.Text.Blank
import VisualScale.Text.Lines
import VisualScale.Text.Compatibility
import VisualScale.Literal
import VisualScale.Diagnostic
import VisualScale.Expr.Build
import VisualScale.Expr.Source
import VisualScale.Formula.Numeral
import VisualScale.Formula.Lexer
import VisualScale.Formula.Reader
import VisualScale.Formula.Phrase
import VisualScale.Formula.Template
import VisualScale.Formula.Grammar
import VisualScale.Formula.Names
import VisualScale.Formula.Compile
import VisualScale.Resolve
import VisualScale.Json
import VisualScale.About
import VisualScale.Proofs.Substitution
import VisualScale.Proofs.Announcement
import VisualScale.Proofs.Resolution.AllOrNothing
import VisualScale.Proofs.Number.Numeral
import VisualScale.Proofs.Source.Words
import VisualScale.Proofs.Source.Normal
import VisualScale.Proofs.Source.Reads
import VisualScale.Proofs.Source.RoundTrip
import VisualScale.Proofs.Resolution.Built
import VisualScale.Proofs.Session
import VisualScale.Proofs.Typing
import VisualScale.Proofs.Resolution.Typed
import VisualScale.Proofs.Meaning.Evaluation
import VisualScale.Proofs.Meaning.Soundness
import VisualScale.Proofs.Language.Accepted
import VisualScale.Proofs.Resolution.Fold
import VisualScale.Proofs.Resolution.OneValue
import VisualScale.Proofs.Operations
import VisualScale.Proofs.Resolution.Once
import VisualScale.Proofs.Resolution.Apart
import VisualScale.Proofs.Nodes
import VisualScale.Proofs.Failing
import VisualScale.Proofs.Reading
import VisualScale.Proofs.Narrowing
import VisualScale.Proofs.Resolution.Leaves
import VisualScale.Proofs.Resolution.Parts
import VisualScale.Proofs.Resolution.Ending
import VisualScale.Proofs.AttributeHistory
import VisualScale.Proofs.Language.Tree
import VisualScale.Formula.Focused
import VisualScale.Proofs.Language.Trusting
import VisualScale.Proofs.FirstFailure
import VisualScale.Proofs.Place.Carets
import VisualScale.Proofs.Stored
import VisualScale.Proofs.Source.Again
import VisualScale.Proofs.Source.Columns
import VisualScale.Proofs.AttributeNames
import VisualScale.Proofs.Meaning.Bounds
import VisualScale.Proofs.Export
import VisualScale.Proofs.FaultKinds
import VisualScale.Proofs.NameOrder
import VisualScale.Proofs.Document.Exported
import VisualScale.Proofs.Determined
