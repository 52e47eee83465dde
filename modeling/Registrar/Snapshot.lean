import Registrar.Tag
import Registrar.Timestamp

/- The full state of one repository, desired or observed: what its owner may set, what only the
   remote side reports, and the conditions of the last pass. -/
namespace Registrar

inductive Mutability where
  | mutable
  | immutable
  deriving DecidableEq, Repr

namespace Mutability

def word : Mutability → String
  | .mutable => "MUTABLE"
  | .immutable => "IMMUTABLE"

def all : List Mutability := [.mutable, .immutable]

def ofWord? (text : String) : Option Mutability := all.find? (·.word == text)

def refusal (text : String) : String := "invalid image tag mutability: " ++ text

def preset : Mutability := .mutable

theorem ofWord?_eq_some {text : String} {m : Mutability} :
    ofWord? text = some m ↔ text = m.word := by
  constructor
  · intro h
    have named := @List.find?_some _ (fun n : Mutability => n.word == text) m all h
    exact (beq_iff_eq.1 named).symm
  · rintro rfl
    cases m <;> decide

end Mutability

structure Scanning where
  onPush : Option Bool
  deriving DecidableEq, Repr

structure Encryption where
  kind : Option String
  key : Option String
  deriving DecidableEq, Repr

/-- What callers set. The name is the identity; an empty name means it is not known yet. -/
structure Spec where
  name : String
  registryId : Option String := none
  scanning : Option Scanning := none
  mutability : Option Mutability := none
  encryption : Option Encryption := none
  lifecyclePolicy : Option String := none
  policy : Option String := none
  tags : List Tag := []
  deriving DecidableEq, Repr

structure Condition where
  holds : Bool
  message : Option String
  deriving DecidableEq, Repr

def Condition.met : Condition := ⟨true, none⟩

def Condition.unmet (message : String) : Condition := ⟨false, some message⟩

/-- What the remote side reports, and the conditions. `terminalSpec` is what was asked for when
    the terminal failure happened. -/
structure Status where
  createdAt : Option Timestamp := none
  arn : Option String := none
  ownerAccount : Option String := none
  region : Option String := none
  registryId : Option String := none
  uri : Option String := none
  synced : Option Condition := none
  terminal : Option Condition := none
  terminalSpec : Option Spec := none
  deriving DecidableEq, Repr

structure Snapshot where
  spec : Spec
  status : Status := {}
  deriving DecidableEq, Repr

namespace Snapshot

def named (name : String) : Snapshot := { spec := { name := name } }

def name (r : Snapshot) : String := r.spec.name

def arn (r : Snapshot) : Option String := r.status.arn

/-- The registry asked for, else the one observed. -/
def registryId (r : Snapshot) : Option String := r.spec.registryId.or r.status.registryId

def isTerminal (r : Snapshot) : Bool := r.status.terminal.any (·.holds)

end Snapshot
end Registrar
