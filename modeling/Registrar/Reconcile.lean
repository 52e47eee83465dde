import Registrar.Converge
import Registrar.Observe

/- One pass over one repository: create it, or read it back and push what differs; and the removal
   of a repository. -/
namespace Registrar

open Attempt

inductive SyncState where
  | inSync
  | terminal
  | created
  /-- Created, but its policies could not be set yet. -/
  | createPending
  | converged
  deriving DecidableEq, Repr

def SyncState.name : SyncState → String
  | .inSync => "InSync"
  | .terminal => "Terminal"
  | .created => "Created"
  | .createPending => "CreatePending"
  | .converged => "Converged"

/-- `snapshot` is to be kept as the latest observation. -/
structure Outcome where
  snapshot : Snapshot
  requeueSeconds : Option UInt64 := none
  state : SyncState
  deriving DecidableEq, Repr

namespace Snapshot

def withSynced (r : Snapshot) (c : Condition) : Snapshot :=
  { r with status := { r.status with synced := some c } }

def withoutTerminal (r : Snapshot) : Snapshot :=
  { r with status := { r.status with terminal := none, terminalSpec := none } }

def createdAs (desired : Snapshot) (c : Candidate) (settings : Settings) : Snapshot :=
  withoutTerminal ⟨desired.spec, (desired.status.describedBy c).withOwner settings⟩

def withoutPolicies (r : Snapshot) : Snapshot :=
  { r with spec := { r.spec with policy := none, lifecyclePolicy := none } }

def policiesToSet (r : Snapshot) : ChangeSet :=
  let add (s : ChangeSet) (f : Field) (t : Option String) : ChangeSet :=
    match nonEmptyText t with
    | some text => s.add f .null (.string text)
    | none => s
  add (add .empty .lifecyclePolicy r.spec.lifecyclePolicy) .policy r.spec.policy

end Snapshot

/-- Creates the repository and sets its policies. Once it exists the pass does not fail any more:
    policies that could not be set leave the outcome pending, for a later pass to push. -/
def create (settings : Settings) (desired : Snapshot) : Attempt Outcome := do
  tell (.creating desired.name)
  let reply ← demand (.create desired.spec.creation)
  let r := desired.createdAs reply settings
  tell (.created r.name (textOrEmpty r.arn))
  let changes := r.policiesToSet
  if changes.isEmpty then
    pure { snapshot := r.withSynced .met, state := .created }
  else
    match ← outcome (converge settings r r.withoutPolicies changes) with
    | .ok _ => pure { snapshot := r.withSynced .met, state := .created }
    | .error f => do
      tell (.pending r.name f.message)
      pure
        { snapshot := r.withSynced (.unmet ("pending: " ++ f.message))
          requeueSeconds := some settings.requeueSeconds
          state := .createPending }

def retryBlocked (settings : Settings) (desired latest : Snapshot) : Bool :=
  latest.isTerminal && latest.status.terminalSpec.any fun failed =>
    (ChangeSet.between settings desired { spec := failed }).isEmpty

def update (settings : Settings) (desired observed : Snapshot) : Attempt Outcome := do
  let changes := ChangeSet.between settings desired observed
  if changes.needsRequests then
    tell (.converging desired.name changes.fields)
    let r ← converge settings desired observed changes
    let r := { r with status := observed.status }.withoutTerminal.withSynced .met
    pure { snapshot := r, state := .converged }
  else
    if changes.differsAt .encryption then tell (.encryptionStays desired.name)
    if observed.isTerminal then
      tell (.staysTerminal observed.name)
      pure { snapshot := observed, state := .terminal }
    else
      tell (.inSync observed.name)
      pure { snapshot := observed.withSynced .met, state := .inSync }

/-- Brings the repository to what is desired. Without a latest snapshot it is created; else it is
    read back first, and created anew if it is gone. A failure for good is not retried, and nothing
    is asked of the remote, as long as the same is desired. -/
def reconcile (settings : Settings) (desired : Snapshot) (latest : Option Snapshot) :
    Attempt Outcome := do
  if desired.name = "" then throw (.missingField "spec.name")
  else match latest with
    | none => create settings desired
    | some latest =>
      if retryBlocked settings desired latest then
        tell (.blocked desired.name)
        pure { snapshot := latest, state := .terminal }
      else
        match ← outcome (observe settings ⟨desired.spec, latest.status⟩) with
        | .ok observed => update settings desired observed
        | .error (.notFound _) => do
          tell (.recreating desired.name)
          create settings desired
        | .error f => throw f

/-- Removes the repository. One that is gone already counts as removed. -/
def remove (r : Snapshot) (force : Bool) : Attempt Unit := do
  tell (.deleting r.name force)
  match ← send (.delete r.target force) with
  | .ok () => pure ()
  | .error e => if e.isNoRepository then tell (.alreadyDeleted r.name) else throw (.remote e)

end Registrar
