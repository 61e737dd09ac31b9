import Screening.Main
import Screening.Proofs.Binary64.Display
import Screening.Proofs.Condition.Acceptance
import Screening.Proofs.Condition.Normal
import Screening.Proofs.Condition.Order
import Screening.Proofs.Condition.Parentheses
import Screening.Proofs.Condition.Places
import Screening.Proofs.Condition.Printing
import Screening.Proofs.Condition.Respelling
import Screening.Proofs.Directory
import Screening.Proofs.Evaluation
import Screening.Proofs.Rule.Book
import Screening.Proofs.Rule.Decision
import Screening.Proofs.Rule.Frame
import Screening.Proofs.Schema.Acceptance
import Screening.Proofs.Schema.Normal
import Screening.Proofs.Schema.Widening
import Screening.Proofs.Token.Cut
import Screening.Proofs.Token.Joining
import Screening.Proofs.Token.Span
import Screening.Proofs.Condition.Canonical
import Screening.Proofs.Schema.Canonical
import Screening.Proofs.Catalog
import Screening.Proofs.Catalog.Declaration
import Screening.Proofs.Evaluation.Misfit
import Screening.Proofs.Evaluation.Missing
import Screening.Proofs.Evaluation.Scope
import Screening.Proofs.Evaluation.Obstacle
import Screening.Proofs.Evaluation.Same
import Screening.Proofs.Application
import Screening.Proofs.Condition.Spacing
import Screening.Proofs.Condition.Fault
import Screening.Proofs.Condition.Nesting
import Screening.Proofs.Condition.Reuse
import Screening.Proofs.Schema.Report
import Screening.Proofs.Condition.Moving
import Screening.Proofs.Schema.Indent
import Screening.Proofs.Schema.Comparisons
import Screening.Proofs.Schema.Naming
import Screening.Proofs.Amount
import Screening.Proofs.Evaluation.Records
import Screening.Proofs.Token.Scanner
import Screening.Proofs.Evaluation.Trichotomy
import Screening.Proofs.Json
import Screening.Proofs.Json.Lexeme
import Screening.Proofs.Json.Reading
import Screening.Proofs.Value
import Screening.Proofs.Value.Narrowing
