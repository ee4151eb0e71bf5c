import Rollout.Config.Document
import Rollout.Engine.Dialogue.Laws
import Rollout.Engine.Site
import Rollout.Log.Capture
import Rollout.Proofs.Cancellation
import Rollout.Proofs.Composition
import Rollout.Proofs.Custody
import Rollout.Proofs.Desired
import Rollout.Proofs.Diagnosis
import Rollout.Proofs.Edits
import Rollout.Proofs.Failure
import Rollout.Proofs.Families
import Rollout.Proofs.Frame
import Rollout.Proofs.Grammar
import Rollout.Proofs.Indifference
import Rollout.Proofs.Injection
import Rollout.Proofs.Isolation
import Rollout.Proofs.Journal
import Rollout.Proofs.Layouts
import Rollout.Proofs.Memberships
import Rollout.Proofs.Namesakes
import Rollout.Proofs.Rearrangement
import Rollout.Proofs.Repair
import Rollout.Proofs.Residue
import Rollout.Proofs.ScopeWrites
import Rollout.Proofs.Separation
import Rollout.Proofs.Spelling
import Rollout.Proofs.Stops
import Rollout.Proofs.Writes
