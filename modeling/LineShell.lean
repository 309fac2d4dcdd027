import LineShell.Command.Printer
import LineShell.Main
import LineShell.Proofs.Accounting
import LineShell.Proofs.Admission
import LineShell.Proofs.Agreement
import LineShell.Proofs.Barrier
import LineShell.Proofs.Composition
import LineShell.Proofs.Concatenation
import LineShell.Proofs.Containment
import LineShell.Proofs.Custody
import LineShell.Proofs.Departure
import LineShell.Proofs.Effects
import LineShell.Proofs.Endurance
import LineShell.Proofs.Grammar
import LineShell.Proofs.Interruption
import LineShell.Proofs.Isolation
import LineShell.Proofs.Joining
import LineShell.Proofs.Layout
import LineShell.Proofs.Precedence
import LineShell.Proofs.Provenance
import LineShell.Proofs.Readability
import LineShell.Proofs.Recoding
import LineShell.Proofs.Recovery
import LineShell.Proofs.Redirection
import LineShell.Proofs.Resolution
import LineShell.Proofs.RoundTrip
import LineShell.Proofs.Stability
import LineShell.Proofs.Startup
import LineShell.Proofs.Status
import LineShell.Proofs.Transparency
import LineShell.Proofs.Verbosity
