import Registrar.Json

/- Which fields of a snapshot differ, and how. -/
namespace Registrar

inductive Field where
  | scanning
  | mutability
  | encryption
  | lifecyclePolicy
  | policy
  | tags
  deriving DecidableEq, Repr

namespace Field

def all : List Field := [.scanning, .mutability, .encryption, .lifecyclePolicy, .policy, .tags]

def title : Field → String
  | .scanning => "ImageScanningConfiguration"
  | .mutability => "ImageTagMutability"
  | .encryption => "EncryptionConfiguration"
  | .lifecyclePolicy => "LifecyclePolicy"
  | .policy => "Policy"
  | .tags => "Tags"

def ofTitle? (text : String) : Option Field := all.find? (·.title = text)

def dotted (f : Field) : String := "Spec." ++ f.title

/-- The fields that requests can change, in the order in which they are pushed: what shapes the
    repository first, then the policies, then the tags. -/
def pushed : List Field := [.scanning, .mutability, .lifecyclePolicy, .policy, .tags]

end Field

structure Change where
  field : Field
  old : Json
  new : Json
  deriving Repr

/-- At most one change a field, in the order of first mention. -/
structure ChangeSet where
  changes : List Change
  deriving Repr

namespace ChangeSet

def empty : ChangeSet := ⟨[]⟩

def putChange (c : Change) : List Change → List Change
  | [] => [c]
  | d :: rest => if d.field = c.field then c :: rest else d :: putChange c rest

def add (s : ChangeSet) (field : Field) (old new : Json) : ChangeSet :=
  ⟨putChange ⟨field, old, new⟩ s.changes⟩

def differsAt (s : ChangeSet) (field : Field) : Bool := s.changes.any (·.field = field)

def get? (s : ChangeSet) (field : Field) : Option Change := s.changes.find? (·.field = field)

def fields (s : ChangeSet) : List Field := s.changes.map Change.field

def isEmpty (s : ChangeSet) : Bool := s.changes.isEmpty

def size (s : ChangeSet) : Nat := s.changes.length

/-- Whether some change takes a request; encryption is set at creation only. -/
def needsRequests (s : ChangeSet) : Bool := Field.pushed.any s.differsAt

end ChangeSet
end Registrar
