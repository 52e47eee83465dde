import Registrar.Change
import Registrar.Remote
import Registrar.Text.Digits

/- What a pass tells its log, in the order in which it happens. -/
namespace Registrar

inductive Event where
  | cancelled (before : Operation)
  | noCandidates (name : String)
  | noneMatches (name : String) (candidates : Nat)
  | observed (name : String) (tags : Nat)
  | encryptionStays (name : String)
  | pushing (name : String) (field : Field)
  | scanningPut (name : String) (onPush : Bool)
  | mutabilityPut (name : String) (m : Mutability)
  | lifecyclePut (name : String)
  | lifecycleDeleted (name : String)
  | lifecycleAbsent (name : String)
  | policySet (name : String)
  | policyDeleted (name : String)
  | policyAbsent (name : String)
  | tagsRemoved (name : String) (count : Nat)
  | tagsApplied (name : String) (count : Nat)
  | blocked (name : String)
  | recreating (name : String)
  | staysTerminal (name : String)
  | inSync (name : String)
  | converging (name : String) (fields : List Field)
  | creating (name : String)
  | created (name arn : String)
  | pending (name error : String)
  | deleting (name : String) (force : Bool)
  | alreadyDeleted (name : String)
  deriving DecidableEq, Repr

namespace Event

inductive Level where
  | debug
  | info
  | warn
  deriving DecidableEq, Repr

def Level.name : Level → String
  | .debug => "DEBUG"
  | .info => "INFO"
  | .warn => "WARN"

def level : Event → Level
  | .cancelled _ | .encryptionStays _ | .pending .. => .warn
  | .noCandidates _ | .noneMatches .. | .observed .. | .pushing .. | .lifecycleAbsent _
  | .policyAbsent _ | .staysTerminal _ | .inSync _ | .alreadyDeleted _ => .debug
  | _ => .info

def message : Event → String
  | .cancelled _ => "reconcile pass cancelled"
  | .noCandidates _ => "describe returned no repositories"
  | .noneMatches .. => "no candidate matched repository name"
  | .observed .. => "repository read"
  | .encryptionStays _ =>
    "encryption configuration differs but can only be set at creation; leaving it"
  | .pushing .. => "converging field"
  | .scanningPut .. => "image scanning configuration updated"
  | .mutabilityPut .. => "image tag mutability updated"
  | .lifecyclePut _ => "lifecycle policy updated"
  | .lifecycleDeleted _ => "lifecycle policy deleted"
  | .lifecycleAbsent _ => "lifecycle policy already absent"
  | .policySet _ => "repository policy updated"
  | .policyDeleted _ => "repository policy deleted"
  | .policyAbsent _ => "repository policy already absent"
  | .tagsRemoved .. => "tags removed"
  | .tagsApplied .. => "tags applied"
  | .blocked _ => "terminal failure for this desired state, not retrying"
  | .recreating _ => "repository missing remotely, recreating"
  | .staysTerminal _ => "no changes; terminal condition stays"
  | .inSync _ => "repository in sync"
  | .converging .. => "converging repository"
  | .creating _ => "creating repository"
  | .created .. => "repository created"
  | .pending .. => "post-create policy update failed, will retry"
  | .deleting .. => "deleting repository"
  | .alreadyDeleted _ => "repository already deleted"

def listed (fields : List Field) : String :=
  "[" ++ String.intercalate ", " (fields.map Field.title) ++ "]"

def details : Event → List (String × Json)
  | .cancelled before => [("api", .string before.name)]
  | .noneMatches name n => [("repository", .string name), ("candidates", .natural n)]
  | .observed name n => [("repository", .string name), ("tags", .natural n)]
  | .pushing name f => [("repository", .string name), ("field", .string f.dotted)]
  | .scanningPut name b => [("repository", .string name), ("scan_on_push", .bool b)]
  | .mutabilityPut name m => [("repository", .string name), ("mutability", .string m.word)]
  | .tagsRemoved name n => [("repository", .string name), ("removed", .natural n)]
  | .tagsApplied name n => [("repository", .string name), ("upserted", .natural n)]
  | .converging name fs => [("repository", .string name), ("fields", .string (listed fs))]
  | .created name arn => [("repository", .string name), ("arn", .string arn)]
  | .pending name error => [("repository", .string name), ("error", .string error)]
  | .deleting name force => [("repository", .string name), ("force", .bool force)]
  | .noCandidates name | .encryptionStays name | .lifecyclePut name | .lifecycleDeleted name
  | .lifecycleAbsent name | .policySet name | .policyDeleted name | .policyAbsent name
  | .blocked name | .recreating name | .staysTerminal name | .inSync name | .creating name
  | .alreadyDeleted name => [("repository", .string name)]

def json (e : Event) : Json :=
  .object (("level", .string e.level.name) :: ("message", .string e.message) :: e.details)

end Event
end Registrar
