import Registrar.Snapshot

/- The remote registry as a pass sees it: what can be asked, what each question is answered by, and
   how it may be refused. Any remote is a state and one answering function. -/
namespace Registrar

inductive Operation where
  | describe
  | create
  | delete
  | putScanning
  | putMutability
  | getLifecycle
  | putLifecycle
  | deleteLifecycle
  | getPolicy
  | setPolicy
  | deletePolicy
  | listTags
  | tag
  | untag
  deriving DecidableEq, Repr

namespace Operation

def name : Operation → String
  | .describe => "DescribeRepositories"
  | .create => "CreateRepository"
  | .delete => "DeleteRepository"
  | .putScanning => "PutImageScanningConfiguration"
  | .putMutability => "PutImageTagMutability"
  | .getLifecycle => "GetLifecyclePolicy"
  | .putLifecycle => "PutLifecyclePolicy"
  | .deleteLifecycle => "DeleteLifecyclePolicy"
  | .getPolicy => "GetRepositoryPolicy"
  | .setPolicy => "SetRepositoryPolicy"
  | .deletePolicy => "DeleteRepositoryPolicy"
  | .listTags => "ListTagsForResource"
  | .tag => "TagResource"
  | .untag => "UntagResource"

def all : List Operation :=
  [.describe, .create, .delete, .putScanning, .putMutability, .getLifecycle, .putLifecycle,
    .deleteLifecycle, .getPolicy, .setPolicy, .deletePolicy, .listTags, .tag, .untag]

def ofName? (text : String) : Option Operation := all.find? (·.name = text)

def mutates : Operation → Bool
  | .describe | .getLifecycle | .getPolicy | .listTags => false
  | _ => true

end Operation

structure Candidate where
  name : Option String := none
  registryId : Option String := none
  arn : Option String := none
  uri : Option String := none
  createdAt : Option Timestamp := none
  mutability : Option Mutability := none
  scanning : Option Scanning := none
  encryption : Option Encryption := none
  deriving DecidableEq, Repr

structure Target where
  registryId : Option String
  name : String
  deriving DecidableEq, Repr

def Snapshot.target (r : Snapshot) : Target := ⟨r.registryId, r.name⟩

/-- What a repository is created with; its policies are set by further requests. -/
structure Creation where
  name : String
  registryId : Option String
  mutability : Option Mutability
  scanning : Option Scanning
  encryption : Option Encryption
  tags : List Tag
  deriving DecidableEq, Repr

def Spec.creation (s : Spec) : Creation :=
  ⟨s.name, s.registryId, s.mutability, s.scanning, s.encryption, s.tags⟩

inductive Request where
  | describe (registryId : Option String) (names : List String)
  | create (c : Creation)
  | delete (t : Target) (force : Bool)
  | putScanning (t : Target) (onPush : Bool)
  | putMutability (t : Target) (m : Mutability)
  | getLifecycle (t : Target)
  | putLifecycle (t : Target) (text : String)
  | deleteLifecycle (t : Target)
  | getPolicy (t : Target)
  | setPolicy (t : Target) (text : String)
  | deletePolicy (t : Target)
  | listTags (arn : String)
  | tag (arn : String) (tags : List Tag)
  | untag (arn : String) (keys : List String)
  deriving DecidableEq, Repr

@[reducible] def Operation.Reply : Operation → Type
  | .describe => List Candidate
  | .create => Candidate
  | .getLifecycle | .getPolicy => String
  | .listTags => List Tag
  | _ => Unit

namespace Request

@[reducible] def operation : Request → Operation
  | .describe .. => .describe
  | .create .. => .create
  | .delete .. => .delete
  | .putScanning .. => .putScanning
  | .putMutability .. => .putMutability
  | .getLifecycle .. => .getLifecycle
  | .putLifecycle .. => .putLifecycle
  | .deleteLifecycle .. => .deleteLifecycle
  | .getPolicy .. => .getPolicy
  | .setPolicy .. => .setPolicy
  | .deletePolicy .. => .deletePolicy
  | .listTags .. => .listTags
  | .tag .. => .tag
  | .untag .. => .untag

@[reducible] def Reply (q : Request) : Type := q.operation.Reply

def mutates (q : Request) : Bool := q.operation.mutates

end Request

inductive RemoteError where
  | noRepository (text : String)
  | noPolicy (text : String)
  | noLifecycle (text : String)
  | service (code message : String)
  | transport (text : String)
  deriving DecidableEq, Repr

namespace RemoteError

def isNoRepository : RemoteError → Bool
  | .noRepository _ => true
  | _ => false

def isNoPolicy : RemoteError → Bool
  | .noPolicy _ => true
  | _ => false

def isNoLifecycle : RemoteError → Bool
  | .noLifecycle _ => true
  | _ => false

def noRepositoryCode : String := "RepositoryNotFoundException"

def noPolicyCode : String := "RepositoryPolicyNotFoundException"

def noLifecycleCode : String := "LifecyclePolicyNotFoundException"

def transportCode : String := "TransportError"

def code : RemoteError → String
  | .noRepository _ => noRepositoryCode
  | .noPolicy _ => noPolicyCode
  | .noLifecycle _ => noLifecycleCode
  | .service code _ => code
  | .transport _ => transportCode

def message : RemoteError → String
  | .noRepository text => "repository not found: " ++ text
  | .noPolicy text => "repository policy not found: " ++ text
  | .noLifecycle text => "lifecycle policy not found: " ++ text
  | .service code message => code ++ ": " ++ message
  | .transport text => "transport error: " ++ text

end RemoteError

structure Remote (σ : Type) where
  answer : σ → (q : Request) → Except RemoteError q.Reply × σ

end Registrar
