import LineCalc.Main
import LineCalc.Proofs.Lexeme
import LineCalc.Proofs.Grammar.Scanning
import LineCalc.Proofs.Grammar.Abreast
import LineCalc.Proofs.Grammar.Separation
import LineCalc.Proofs.Grammar.Substitution
import LineCalc.Proofs.Grammar.Lockstep
import LineCalc.Proofs.Grammar.Procedure
import LineCalc.Proofs.Grammar.Progress
import LineCalc.Proofs.Grammar.Token
import LineCalc.Proofs.Grammar.Tree
import LineCalc.Proofs.Grammar.Computation
import LineCalc.Proofs.Grammar.Literal
import LineCalc.Proofs.Builtin.Call
import LineCalc.Proofs.Grammar.Chain
import LineCalc.Proofs.Grammar.Completeness
import LineCalc.Proofs.Grammar.Soundness
import LineCalc.Proofs.Grammar.Line
import LineCalc.Proofs.Grammar.Attempt
import LineCalc.Proofs.Grammar.Evaluation
import LineCalc.Proofs.Bindings
import LineCalc.Proofs.Session.Atomic
import LineCalc.Proofs.Builtin.Unread
import LineCalc.Proofs.Session.Exclusion
import LineCalc.Proofs.Session.Run
import LineCalc.Proofs.Session.Layout
import LineCalc.Proofs.Session.Dependence
import LineCalc.Proofs.Session.Inlining
import LineCalc.Proofs.Words
import LineCalc.Proofs.Console.Command
import LineCalc.Proofs.Console.Run
import LineCalc.Proofs.Console.Script
import LineCalc.Proofs.CommandLine.Modes
import LineCalc.Proofs.Console.Timing
import LineCalc.Proofs.Console.Showing
import LineCalc.Proofs.Decimal.Display
import LineCalc.Proofs.Session.Quotation
import LineCalc.Proofs.Grammar.Fault
import LineCalc.Proofs.Session.Fault
import LineCalc.Proofs.Grammar.Behind
import LineCalc.Proofs.Grammar.Rewinding
import LineCalc.Proofs.Grammar.Afresh
import LineCalc.Proofs.Cursor.Move
import LineCalc.Proofs.Cursor.Walk
import LineCalc.Proofs.Session.Arithmetic
import LineCalc.Proofs.Double.Rounding
import LineCalc.Proofs.Decimal.Reading
import LineCalc.Proofs.Decimal.Rounding
import LineCalc.Proofs.Decimal.Shortest
import LineCalc.Proofs.Double.Display
import LineCalc.Proofs.Session.Reentry
import LineCalc.Proofs.Double.Notation
import LineCalc.Proofs.Double.Order
import LineCalc.Proofs.Builtin.Extremum
import LineCalc.Proofs.Builtin.Refusal
import LineCalc.Proofs.Builtin.Routine
import LineCalc.Proofs.Decimal.Spelling
import LineCalc.Proofs.Double.Reader
import LineCalc.Proofs.Session.Coercion
import LineCalc.Proofs.Double.HalfUp
import LineCalc.Proofs.Double.Factorial
import LineCalc.Proofs.Double.DecimalPlace
