import Deprecation.Callable
import Deprecation.Diagnostic
import Deprecation.Json.Printer
import Deprecation.Json.Reader
import Deprecation.Notice.Encoding
import Deprecation.Proofs.Renaming.Moves
import Deprecation.Proofs.Action
import Deprecation.Proofs.Operation
import Deprecation.Proofs.Deduplication
import Deprecation.Proofs.Renaming.OnePass
import Deprecation.Proofs.Atomicity
import Deprecation.Proofs.Renaming.Trajectory
import Deprecation.Proofs.Renaming.Warnings
import Deprecation.Proofs.Steps
import Deprecation.Proofs.SharedEmitter
import Deprecation.Proofs.Latches
import Deprecation.Proofs.Wrappers
import Deprecation.Proofs.SharedCalls
import Deprecation.Proofs.Interleaving
import Deprecation.Proofs.Renaming.Composition
import Deprecation.Proofs.Renaming.Settled
import Deprecation.Proofs.Deeds
import Deprecation.Proofs.Attribution
import Deprecation.Proofs.Accounting
import Deprecation.Proofs.Independence
import Deprecation.Proofs.Frame
import Deprecation.Proofs.Retention
import Deprecation.Proofs.Hooks
import Deprecation.Proofs.Renaming.Reordering
import Deprecation.Proofs.Sentence
import Deprecation.Proofs.Reading.Fields
import Deprecation.Proofs.Resolution
import Deprecation.Proofs.Reading.Notices
import Deprecation.Proofs.Reading.Spellings
import Deprecation.Proofs.Reading.Keys
import Deprecation.Proofs.Reading.Settings
import Deprecation.Proofs.Overrides.Words
import Deprecation.Proofs.Overrides.Precedence
import Deprecation.Proofs.Growth
