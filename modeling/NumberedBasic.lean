import NumberedBasic.Main
import NumberedBasic.Proofs.Block.Counting
import NumberedBasic.Proofs.Block.Refinement
import NumberedBasic.Proofs.CommandLine.Program
import NumberedBasic.Proofs.Cursor.Matcher
import NumberedBasic.Proofs.Grammar.Complete
import NumberedBasic.Proofs.Grammar.Numeral
import NumberedBasic.Proofs.Grammar.Sound
import NumberedBasic.Proofs.Number.Canonical
import NumberedBasic.Proofs.Number.Domain
import NumberedBasic.Proofs.Number.Remainder
import NumberedBasic.Proofs.Program.History
import NumberedBasic.Proofs.Run.Failure
import NumberedBasic.Proofs.Run.Pause
import NumberedBasic.Proofs.Run.Remark
import NumberedBasic.Proofs.Session.Bracket
import NumberedBasic.Proofs.Session.Case
import NumberedBasic.Proofs.Session.Coherence
import NumberedBasic.Proofs.Session.Conversation
import NumberedBasic.Proofs.Session.Missing
import NumberedBasic.Proofs.Session.RoundTrip
import NumberedBasic.Proofs.Session.Seed
import NumberedBasic.Proofs.Session.Snapshot
import NumberedBasic.Proofs.Session.Storing
import NumberedBasic.Proofs.Statement.Fields
import NumberedBasic.Proofs.Statement.Literal
import NumberedBasic.Proofs.Statement.Nesting
