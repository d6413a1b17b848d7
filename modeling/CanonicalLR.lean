import CanonicalLR.Command.Directory
import CanonicalLR.Inspect
import CanonicalLR.Log
import CanonicalLR.Main
import CanonicalLR.Script.Queue
import CanonicalLR.Script.Repair
import CanonicalLR.Tree.Json
import CanonicalLR.Proofs.Acceptance
import CanonicalLR.Proofs.Halting
import CanonicalLR.Proofs.Canonical
import CanonicalLR.Proofs.Conflicts
import CanonicalLR.Proofs.Lockstep
import CanonicalLR.Proofs.EarlyErrors
import CanonicalLR.Proofs.Recovery
import CanonicalLR.Proofs.RecoveryProgress
import CanonicalLR.Proofs.Json.Text
import CanonicalLR.Proofs.Json.RoundTrip
import CanonicalLR.Proofs.Matching
import CanonicalLR.Proofs.GrammarFile.Lexemes
import CanonicalLR.Proofs.Reductions
import CanonicalLR.Proofs.Definitions
import CanonicalLR.Proofs.GrammarFile.Meaning
import CanonicalLR.Proofs.GrammarFile.Reading
import CanonicalLR.Proofs.GrammarFile.RoundTrip
import CanonicalLR.Proofs.Classification
import CanonicalLR.Proofs.Saturation
import CanonicalLR.Proofs.Likeness
import CanonicalLR.Proofs.Renaming
import CanonicalLR.Proofs.Consumption
import CanonicalLR.Proofs.Callbacks
import CanonicalLR.Proofs.ReservedNames
import CanonicalLR.Proofs.Reports
import CanonicalLR.Proofs.BreadthFirst
import CanonicalLR.Proofs.Positions
import CanonicalLR.Proofs.Tokenization
import CanonicalLR.Proofs.Pattern.Closing
import CanonicalLR.Proofs.Pattern.Brackets
import CanonicalLR.Proofs.Pattern.Groups
import CanonicalLR.Proofs.Anchoring
