import LoxScan.CommandLine.Run
import LoxScan.Interface
import LoxScan.Json.Printer
import LoxScan.Main
import LoxScan.Proofs.Accounting
import LoxScan.Proofs.Chunks
import LoxScan.Proofs.Collecting
import LoxScan.Proofs.Cursor
import LoxScan.Proofs.Delivery
import LoxScan.Proofs.Draining
import LoxScan.Proofs.EndToEnd
import LoxScan.Proofs.Erasure
import LoxScan.Proofs.FrontEnds
import LoxScan.Proofs.Inputs
import LoxScan.Proofs.Interleaving
import LoxScan.Proofs.JsonDump
import LoxScan.Proofs.Laziness
import LoxScan.Proofs.Lookahead
import LoxScan.Proofs.MaximalMunch
import LoxScan.Proofs.Modes
import LoxScan.Proofs.Moments
import LoxScan.Proofs.NumberLiterals
import LoxScan.Proofs.PlainDump
import LoxScan.Proofs.Routing
import LoxScan.Proofs.Scoping
import LoxScan.Proofs.Sharing
import LoxScan.Proofs.Spacing
import LoxScan.Session.Step
import LoxScan.Token.Kind
