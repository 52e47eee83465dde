import Registrar.Failure
import Registrar.Reconcile

/- Keeping the result of a pass in the conditions of a snapshot. -/
namespace Registrar.Snapshot

/-- A failure for good is recorded with what was asked for. Any other failure leaves the snapshot
    not synced, with the message it had. -/
def afterPass (r : Snapshot) (failure : Option Failure) (settings : Settings) : Snapshot :=
  match failure with
  | none => r.withoutTerminal
  | some f =>
    if f.isTerminal settings then
      { r with
        status := { r.status with
          terminal := some ⟨true, some f.message⟩
          synced := some (.unmet f.message)
          terminalSpec := some r.spec } }
    else r.withoutTerminal.withSynced ⟨false, r.status.synced.bind Condition.message⟩

def updated? (r : Snapshot) (failure : Option Failure) (settings : Settings) : Option Snapshot :=
  let u := r.afterPass failure settings
  if u = r then none else some u

end Registrar.Snapshot
