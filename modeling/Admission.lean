import Admission.Main
import Admission.Proofs.Outcomes
import Admission.Proofs.Binary64.Rounding
import Admission.Proofs.Binary64.Error
import Admission.Proofs.Duration.Seconds
import Admission.Proofs.Config.Check
import Admission.Proofs.Bucket.Level
import Admission.Proofs.Bucket.Uses
import Admission.Proofs.Bucket.Delays
import Admission.Proofs.Bucket.Stale
import Admission.Proofs.Bucket.Runs
import Admission.Proofs.Bucket.Hoard
import Admission.Proofs.Template.Kinds
import Admission.Proofs.Template.Soundness
import Admission.Proofs.Template.Plain
import Admission.Proofs.Template.Guards
import Admission.Proofs.Text.Separator
import Admission.Proofs.Text.Trimming
import Admission.Proofs.Window.Counters
import Admission.Proofs.Window.Ledger
import Admission.Proofs.Window.Calls
import Admission.Proofs.Window.Quota
import Admission.Proofs.Window.Delays
import Admission.Proofs.Router.Registering
import Admission.Proofs.Router.Building
import Admission.Proofs.Router.Accepting
import Admission.Proofs.Router.Budgets
import Admission.Proofs.Router.Deciding
import Admission.Proofs.Router.Resolution
import Admission.Proofs.Router.Counting
import Admission.Proofs.Router.Guarding
import Admission.Proofs.Router.Reaching
import Admission.Proofs.Router.Asking
import Admission.Proofs.Router.Limiters
import Admission.Proofs.Router.Traffic
import Admission.Proofs.Router.Isolation
import Admission.Proofs.Config.Loading
import Admission.Proofs.Setup.Faults
import Admission.Proofs.Router.Mapping
import Admission.Proofs.Setup.Wirings
import Admission.Proofs.Template.Cutting
import Admission.Proofs.Template.Nesting
import Admission.Proofs.Template.Rendering
import Admission.Proofs.Template.Spelling
import Admission.Proofs.Template.Composition
import Admission.Proofs.Template.Splitting
import Admission.Proofs.Template.Pipelines
import Admission.Proofs.Template.Grammar
import Admission.Proofs.Template.Faults
import Admission.Proofs.Pattern.Grammar
import Admission.Proofs.Pattern.Language
import Admission.Proofs.Binary64.Whole
import Admission.Proofs.Duration.Grammar
import Admission.Proofs.Duration.Rereading
import Admission.Proofs.Binary64.Characters
import Admission.Proofs.Settings.Layers
import Admission.Proofs.Config.Defaults
import Admission.Proofs.Config.Intervals
import Admission.Proofs.Bucket.Bursts
import Admission.Proofs.Binary64.Arithmetic
import Admission.Proofs.Bucket.Gauge
import Admission.Proofs.Setup.Levels
import Admission.Proofs.Bucket.Pruning
import Admission.Proofs.Bucket.Readings
import Admission.Proofs.Verdicts
import Admission.Proofs.Window.Tokens
import Admission.Proofs.Request
import Admission.Proofs.Template.Alike
import Admission.Proofs.Router.Respelling
import Admission.Proofs.Router.Ordering
import Admission.Proofs.Window.Overflow
import Admission.Proofs.Window.Sweeping
import Admission.Proofs.Template.Constants
import Admission.Proofs.Template.Literals
