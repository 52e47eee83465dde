import Registrar.Conditions

/- Passes one after the other over one remote, each fed with what the ones before left: the latest
   snapshot and the last failure. -/
namespace Registrar

structure Session (σ : Type) where
  remote : σ
  last : Option Snapshot := none
  lastFailure : Option Failure := none

namespace Session

inductive Step where
  | reconcile (desired : Snapshot) (latest : Option Snapshot)
  | observe (base : Snapshot)
  /-- Without changes of its own the step takes the difference of its snapshots. -/
  | converge (desired latest : Snapshot) (changes : Option ChangeSet)
  | remove (r : Snapshot) (force : Bool)

inductive Result where
  | outcome (o : Outcome)
  | snapshot (r : Snapshot)
  | removed
  | failed (f : Failure)

def Result.snapshot? : Result → Option Snapshot
  | .outcome o => some o.snapshot
  | .snapshot r => some r
  | _ => none

def Result.failure? : Result → Option Failure
  | .failed f => some f
  | _ => none

def Step.attempt (settings : Settings) : Step → Attempt Result
  | .reconcile desired latest => .outcome <$> Registrar.reconcile settings desired latest
  | .observe base => .snapshot <$> Registrar.observe settings base
  | .converge desired latest changes =>
    .snapshot <$> Registrar.converge settings desired latest
      (changes.getD (.between settings desired latest))
  | .remove r force => do
    Registrar.remove r force
    pure .removed

def Result.ofExcept : Except Failure Result → Result
  | .ok a => a
  | .error f => .failed f

def step (remote : Remote σ) (settings : Settings) (limit : Option Nat) (s : Session σ)
    (step : Step) : Transcript (Session σ) Result :=
  let t := (step.attempt settings).run remote limit s.remote
  let result := Result.ofExcept t.result
  { result := result
    calls := t.calls
    events := t.events
    state := ⟨t.state, result.snapshot?.or s.last, result.failure?⟩ }

/-- Brings the conditions of a snapshot up to date. A snapshot that changes by this becomes the
    last one; a failure that is given becomes or stays the last one. -/
def updateConditions (settings : Settings) (s : Session σ) (r : Snapshot)
    (failure : Option Failure) : Option Snapshot × Session σ :=
  let u := r.updated? failure settings
  (u, { s with last := u.or s.last, lastFailure := failure.or s.lastFailure })

end Session
end Registrar
