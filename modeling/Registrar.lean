import Registrar.Conditions
import Registrar.Ecr
import Registrar.ForceDelete
import Registrar.Proofs.Creation
import Registrar.Proofs.Protocol
import Registrar.Proofs.Resuming
import Registrar.Registry
import Registrar.Session
import Registrar.Settings.File
import Registrar.Proofs.Cancellation
import Registrar.Proofs.Isolation
import Registrar.Proofs.Drift
import Registrar.Proofs.Blocking
import Registrar.Proofs.Lifting
import Registrar.Proofs.FollowUp
import Registrar.Proofs.History
import Registrar.Proofs.Sequence
import Registrar.Proofs.Findings
import Registrar.Proofs.Addressing
import Registrar.Proofs.Staleness
import Registrar.Proofs.TagNaming
import Registrar.Proofs.Mirror
import Registrar.Proofs.SettingsFile
import Registrar.Proofs.PolicyDocuments
import Registrar.Proofs.TagSync
import Registrar.Proofs.Adoption
import Registrar.Proofs.Migration
import Registrar.Proofs.EncryptionKind
import Registrar.Proofs.Recorded
import Registrar.Proofs.Keeping
import Registrar.Proofs.Refusals
import Registrar.Proofs.Recording
import Registrar.Proofs.Saving
