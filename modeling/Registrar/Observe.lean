import Registrar.Lookup
import Registrar.Pass

/- Reading a repository back from the remote. -/
namespace Registrar

open Attempt

def observePolicy (r : Snapshot) : Attempt (Option String) := do
  match ← send (.getPolicy r.target) with
  | .ok text => pure (some text)
  | .error e => if e.isNoPolicy then pure none else throw (.remote e)

def observeLifecycle (r : Snapshot) : Attempt (Option String) := do
  match ← send (.getLifecycle r.target) with
  | .ok text => pure (some text)
  | .error e => if e.isNoLifecycle then pure none else throw (.remote e)

def observeRest (r : Snapshot) : Attempt Snapshot := do
  let policy ← observePolicy r
  let lifecycle ← observeLifecycle r
  match r.arn with
  | none => throw (.missingField "status.arn")
  | some arn =>
    let tags ← demand (.listTags arn)
    let r := { r with
      spec := { r.spec with policy := policy, lifecyclePolicy := lifecycle, tags := tags } }
    tell (.observed r.name tags.length)
    pure r

/-- Describes the repository, picks the one meant and merges it into `base`. Not to be found is a
    failure of its own, whether the remote says so or describes other repositories only. -/
def observe (settings : Settings) (base : Snapshot) : Attempt Snapshot := do
  let name := base.name
  match ← send (.describe base.registryId (if name = "" then [] else [name])) with
  | .error e => if e.isNoRepository then throw (.notFound name) else throw (.remote e)
  | .ok candidates =>
    match Lookup.among base candidates settings with
    | .found r => observeRest r
    | .empty => do
      tell (.noCandidates name)
      throw (.notFound name)
    | .noMatch n => do
      tell (.noneMatches name n)
      throw (.notFound name)

end Registrar
