import Reckoner.Expr.Grammar
import Reckoner.Expr.Leaves
import Reckoner.Token.CallFault
import Reckoner.Expr.Postorder
import Reckoner.Expr.Value
import Reckoner.Main
import Reckoner.Outcome.Form
import Reckoner.Proofs.Reader
import Reckoner.Proofs.Token.Lexed
import Reckoner.Proofs.Stacks.Agreement
import Reckoner.Proofs.Grammar.Completeness
import Reckoner.Proofs.Grammar.Soundness
import Reckoner.Proofs.Expr.Evaluate
import Reckoner.Proofs.Outcome
import Reckoner.Proofs.Token.Enclosed
import Reckoner.Proofs.Stacks.Above
import Reckoner.Proofs.Stacks.Bracketed
import Reckoner.Proofs.Arguments
import Reckoner.Proofs.Expr.Graft
import Reckoner.Proofs.Stacks.Leaves
import Reckoner.Proofs.Stacks.Graft
import Reckoner.Proofs.Calls
import Reckoner.Proofs.Brackets
import Reckoner.Proofs.Token.Matching
import Reckoner.Proofs.Inventory
import Reckoner.Proofs.Dialogue
import Reckoner.Proofs.FileTree
import Reckoner.Proofs.Batch
import Reckoner.Proofs.Form
import Reckoner.Proofs.Program
import Reckoner.Proofs.Binary64.Round
import Reckoner.Proofs.Decimal.Round
import Reckoner.Proofs.Decimal.Shortest
import Reckoner.Proofs.Decimal.Layout
import Reckoner.Proofs.Decimal.Text
import Reckoner.Proofs.Token.Spelled
import Reckoner.Outcome.Line
import Reckoner.Proofs.Faults
import Reckoner.Proofs.Text.Cut
import Reckoner.Proofs.Text.Lines
import Reckoner.Proofs.Outcome.Line
import Reckoner.Proofs.Results
import Reckoner.Proofs.Text.Ranges
import Reckoner.Proofs.Expr.Turns
import Reckoner.Proofs.Ledger
import Reckoner.Proofs.Token.Split
import Reckoner.Proofs.Transcript
import Reckoner.Proofs.Token.Commas
import Reckoner.Proofs.Token.Opened
import Reckoner.Proofs.CallRule
import Reckoner.Proofs.Stacks.Placed
import Reckoner.Proofs.Stacks.BeyondRule
import Reckoner.Proofs.Stacks.Reached
import Reckoner.Proofs.Passes
import Reckoner.Proofs.Text.Utf8
import Reckoner.Proofs.Concatenation
import Reckoner.Proofs.Archive
import Reckoner.Proofs.Grammar.Sentences
import Reckoner.Proofs.Records
import Reckoner.Proofs.CheckedCalls
import Reckoner.Proofs.Diagnosis
import Reckoner.Proofs.HistoryCommand
import Reckoner.Proofs.Path
import Reckoner.Proofs.Binary64.Integral
import Reckoner.Proofs.Invariant
