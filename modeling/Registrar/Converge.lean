import Registrar.Difference
import Registrar.Pass

/- Pushing differences to the remote. Requests are not undone when a later one fails: a further pass
   sends what still differs. -/
namespace Registrar

open Attempt

def pushScanning (settings : Settings) (desired : Snapshot) : Attempt Unit := do
  let onPush := desired.spec.scansOnPush settings
  demand (.putScanning desired.target onPush)
  tell (.scanningPut desired.name onPush)

def pushMutability (settings : Settings) (desired : Snapshot) : Attempt Unit := do
  let m := desired.spec.effectiveMutability settings
  demand (.putMutability desired.target m)
  tell (.mutabilityPut desired.name m)

/-- The remote keeps no empty policy, so that none is deleted; it may be gone already. -/
def pushLifecycle (desired : Snapshot) : Attempt Unit := do
  match nonEmptyText desired.spec.lifecyclePolicy with
  | some text => do
    demand (.putLifecycle desired.target text)
    tell (.lifecyclePut desired.name)
  | none =>
    match ← send (.deleteLifecycle desired.target) with
    | .ok () => tell (.lifecycleDeleted desired.name)
    | .error e =>
      if e.isNoLifecycle then tell (.lifecycleAbsent desired.name) else throw (.remote e)

def pushPolicy (desired : Snapshot) : Attempt Unit := do
  match nonEmptyText desired.spec.policy with
  | some text => do
    demand (.setPolicy desired.target text)
    tell (.policySet desired.name)
  | none =>
    match ← send (.deletePolicy desired.target) with
    | .ok () => tell (.policyDeleted desired.name)
    | .error e => if e.isNoPolicy then tell (.policyAbsent desired.name) else throw (.remote e)

def pushTags (desired latest : Snapshot) : Attempt Unit := do
  let delta := TagDelta.between latest.spec.tags desired.spec.tags
  match latest.arn.or desired.arn with
  | none => throw (.missingField "status.arn")
  | some arn => do
    if delta.removed ≠ [] then
      demand (.untag arn delta.removed)
      tell (.tagsRemoved desired.name delta.removed.length)
    if delta.upserts ≠ [] then
      demand (.tag arn delta.upserts)
      tell (.tagsApplied desired.name delta.upserts.length)

def push (settings : Settings) (desired latest : Snapshot) : Field → Attempt Unit
  | .scanning => pushScanning settings desired
  | .mutability => pushMutability settings desired
  | .lifecyclePolicy => pushLifecycle desired
  | .policy => pushPolicy desired
  | .tags => pushTags desired latest
  | .encryption => pure ()

def pushAll (settings : Settings) (desired latest : Snapshot) (changes : ChangeSet) :
    List Field → Attempt Unit
  | [] => pure ()
  | f :: rest => do
    if changes.differsAt f then
      tell (.pushing desired.name f)
      push settings desired latest f
    pushAll settings desired latest changes rest

/-- The requests return nothing to merge: what is now so is what is desired. -/
def converge (settings : Settings) (desired latest : Snapshot) (changes : ChangeSet) :
    Attempt Snapshot := do
  if changes.differsAt .encryption then tell (.encryptionStays desired.name)
  pushAll settings desired latest changes Field.pushed
  pure desired

end Registrar
