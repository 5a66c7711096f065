import Parsing.Grammar.Production
import Parsing.Json.Language
import Parsing.Json.Record
import Parsing.Parser.Description
import Parsing.Parser.Diagnostics
import Parsing.Proofs.Grammar.Alternatives
import Parsing.Proofs.Grammar.Build
import Parsing.Proofs.Grammar.LeadingSets
import Parsing.Proofs.Grammar.Derivation
import Parsing.Proofs.Grammar.LeftRecursion
import Parsing.Proofs.Matching.Choice
import Parsing.Proofs.Matching.Run
import Parsing.Proofs.Matching.Soundness
import Parsing.Proofs.Matching.Termination
import Parsing.Proofs.Matching.Filter
import Parsing.Text.Integer
import Parsing.Proofs.Matching.Completeness
import Parsing.Proofs.Matching.Bounds
import Parsing.Proofs.Matching.Calls
import Parsing.Proofs.Grammar.LeadingWalk
import Parsing.Proofs.Grammar.LeadingSolution
import Parsing.Proofs.Reduction.Accessors
import Parsing.Proofs.Reduction.Careful
import Parsing.Proofs.Reduction.ShapeSafety
import Parsing.Proofs.Parser.Result
import Parsing.Proofs.Lexer.Positions
import Parsing.Proofs.Parser.Caret
import Parsing.Proofs.Matching.Lockstep
import Parsing.Proofs.Matching.Truthful
import Parsing.Proofs.Matching.Depth
import Parsing.Proofs.Matching.Kinds
import Parsing.Proofs.Matching.Shift
import Parsing.Proofs.Regex.Code
import Parsing.Proofs.Regex.Search
import Parsing.Proofs.Regex.Closing
import Parsing.Proofs.Lexer.Anchors
import Parsing.Proofs.Matching.Closed
import Parsing.Proofs.Grammar.Notation
import Parsing.Proofs.Matching.Report
import Parsing.Proofs.Json.RoundTrip
import Parsing.Proofs.Matching.Definite
import Parsing.Proofs.Matching.Optional
import Parsing.Proofs.Matching.Remembered
import Parsing.Proofs.Grammar.Printing
import Parsing.Proofs.Matching.Greedy
import Parsing.Proofs.Lexer.Rounds
import Parsing.Proofs.Reduction.Events
import Parsing.Proofs.Reduction.Linear
import Parsing.Proofs.Parser.Lines
import Parsing.Proofs.Lexer.Vocabularies
import Parsing.Proofs.Matching.Appended
import Parsing.Proofs.Grammar.FirstOccurrences
