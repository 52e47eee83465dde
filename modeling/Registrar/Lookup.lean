import Registrar.Remote
import Registrar.Settings

/- Finding the repository meant among those that the remote describes, and taking over what is
   described. -/
namespace Registrar

namespace Status

def describedBy (s : Status) (c : Candidate) : Status :=
  { s with createdAt := c.createdAt, arn := c.arn, registryId := c.registryId, uri := c.uri }

def withOwner (s : Status) (settings : Settings) : Status :=
  { s with
    ownerAccount := s.ownerAccount.or (some settings.account)
    region := s.region.or (some settings.region) }

end Status

def Spec.describedBy (s : Spec) (c : Candidate) : Spec :=
  { s with
    name := (nonEmptyText c.name).getD s.name
    mutability := c.mutability.or s.mutability
    scanning := c.scanning.or s.scanning
    encryption := c.encryption.or s.encryption }

namespace Snapshot

def describedBy (r : Snapshot) (c : Candidate) (settings : Settings) : Snapshot :=
  ⟨r.spec.describedBy c, (r.status.describedBy c).withOwner settings⟩

/-- A name that is known has to be met exactly. -/
def isMeant (r : Snapshot) (c : Candidate) : Bool := r.name = "" || c.name = some r.name

end Snapshot

inductive Lookup where
  | found (r : Snapshot)
  | empty
  | noMatch (candidates : Nat)
  deriving DecidableEq, Repr

namespace Lookup

def among (base : Snapshot) (candidates : List Candidate) (settings : Settings) : Lookup :=
  if candidates = [] then .empty
  else match candidates.find? base.isMeant with
    | some c => .found (base.describedBy c settings)
    | none => .noMatch candidates.length

def isFound : Lookup → Bool
  | .found _ => true
  | _ => false

def snapshot? : Lookup → Option Snapshot
  | .found r => some r
  | _ => none

end Lookup
end Registrar
