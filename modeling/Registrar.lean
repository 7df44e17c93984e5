import Registrar.Main
import Registrar.Files.Store
import Registrar.Pass.Memo
import Registrar.Text.Utf8
import Registrar.Proofs.Code.Balance
import Registrar.Proofs.Code.Lifecycle
import Registrar.Proofs.Code.Locals
import Registrar.Proofs.Code.Naming
import Registrar.Proofs.Code.Searching
import Registrar.Proofs.Command.Ending
import Registrar.Proofs.Command.Generation
import Registrar.Proofs.Command.Surplus
import Registrar.Proofs.Diagnostic.Wording
import Registrar.Proofs.Manifest.Presentation
import Registrar.Proofs.Manifest.Recognition
import Registrar.Proofs.Manifest.Rendering
import Registrar.Proofs.Ordering.Counters
import Registrar.Proofs.Ordering.Relocation
import Registrar.Proofs.Ordering.Shortest
import Registrar.Proofs.Pass.Classes
import Registrar.Proofs.Pass.Deletion
import Registrar.Proofs.Pass.Lenience
import Registrar.Proofs.Pass.Phases
import Registrar.Proofs.Pass.Recall
import Registrar.Proofs.Report.Colours
import Registrar.Proofs.Report.Decoded
import Registrar.Proofs.Report.Plain
import Registrar.Proofs.Selection
import Registrar.Proofs.SimpleName
