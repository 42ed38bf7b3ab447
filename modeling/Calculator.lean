import Calculator.Main
import Calculator.Showcase
import Calculator.Proofs.Grammar.Derivation
import Calculator.Proofs.Grammar.TreeTokens
import Calculator.Proofs.Grammar.Frames
import Calculator.Proofs.Lexing.Draws
import Calculator.Proofs.Lexing.Seams
import Calculator.Proofs.Reading.Machine
import Calculator.Proofs.Reading.Steps
import Calculator.Proofs.Reading.Simulation
import Calculator.Proofs.Reading.Derivations
import Calculator.Proofs.Grammar.Context
import Calculator.Proofs.Reading.Messages
import Calculator.Proofs.Reading.Prefixes
import Calculator.Proofs.Reading.Openings
import Calculator.Proofs.Reading.Runs
import Calculator.Proofs.Reading.Limits
import Calculator.Proofs.Reading.Takes
import Calculator.Proofs.Reading.Calls
import Calculator.Proofs.Reading.Sentences
import Calculator.Proofs.Reading.Faults
import Calculator.Proofs.Trees.Fold
import Calculator.Proofs.Trees.Written
import Calculator.Proofs.Decimal.Nearest
import Calculator.Proofs.Decimal.Digits
import Calculator.Proofs.Decimal.Notation
import Calculator.Proofs.Calculation.Results
import Calculator.Proofs.Lexing.LongestNumeral
import Calculator.Proofs.Lexing.LongestMatch
import Calculator.Proofs.Lexing.Progress
import Calculator.Proofs.Lexing.Reference
import Calculator.Proofs.Lexing.Locality
import Calculator.Proofs.Trees.Arithmetic
import Calculator.Proofs.Trees.Places
import Calculator.Proofs.Calculation.Failures
import Calculator.Proofs.Transcript.Replies
import Calculator.Proofs.Transcript.Lines
import Calculator.Proofs.Transcript.Settings
import Calculator.Proofs.Calculation.Composition
import Calculator.Proofs.Double.Grid
import Calculator.Proofs.Double.Nearest
import Calculator.Proofs.Calculation.Literals
import Calculator.Proofs.Lexing.Finality
import Calculator.Proofs.Trees.Stacks
import Calculator.Proofs.Trees.Traversals
import Calculator.Proofs.Text.LineEnds
import Calculator.Proofs.Transcript.Terminal
import Calculator.Proofs.Lexing.Respacing
import Calculator.Proofs.Reading.Places
import Calculator.Proofs.Reading.FaultPlaces
import Calculator.Proofs.Trees.Offences
import Calculator.Proofs.Double.Values
import Calculator.Proofs.Double.Remainder
import Calculator.Proofs.Double.Powers
import Calculator.Proofs.Double.Quotients
import Calculator.Proofs.Reading.LexicalFaults
