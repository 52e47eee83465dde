import Registrar.Remote

/- A registry held in memory. It describes strays of any kind ahead of what it holds, and can be
   told to refuse an operation or to answer it as scripted. -/
namespace Registrar

structure Stored where
  name : String
  scanOnPush : Bool := false
  mutability : Mutability := .mutable
  encryption : Encryption := ⟨some "AES256", none⟩
  policy : Option String := none
  lifecyclePolicy : Option String := none
  tags : List Tag := []
  deriving DecidableEq, Repr

namespace Registry

def account : String := "123456789012"

def region : String := "us-west-2"

def arnOf (name : String) : String :=
  "arn:aws:ecr:" ++ region ++ ":" ++ account ++ ":repository/" ++ name

def uriOf (name : String) : String := account ++ ".dkr.ecr." ++ region ++ ".amazonaws.com/" ++ name

/-- 2023-11-14T22:13:20Z -/
def born : Timestamp := ⟨1700000000, 0, by decide, by decide, by decide⟩

end Registry

def Stored.describe (s : Stored) : Candidate where
  name := some s.name
  registryId := some Registry.account
  arn := some (Registry.arnOf s.name)
  uri := some (Registry.uriOf s.name)
  createdAt := some Registry.born
  mutability := some s.mutability
  scanning := some ⟨some s.scanOnPush⟩
  encryption := some s.encryption

def Creation.stored (c : Creation) : Stored :=
  let preset : Stored := { name := c.name }
  { preset with
    mutability := c.mutability.getD preset.mutability
    scanOnPush := (c.scanning.bind Scanning.onPush).getD preset.scanOnPush
    encryption := c.encryption.getD preset.encryption
    tags := c.tags }

/-- Sets the value of the first tag of the key, or appends the tag. -/
def Tag.put (t : Tag) : List Tag → List Tag
  | [] => [t]
  | u :: rest => if u.key = t.key then ⟨u.key, t.value⟩ :: rest else u :: Tag.put t rest

def Tag.putAll (tags : List Tag) (new : List Tag) : List Tag := new.foldl (fun ts t => t.put ts) tags

def Tag.dropKeys (tags : List Tag) (keys : List String) : List Tag :=
  tags.filter (·.key ∉ keys)

/-- One answer laid down in advance; the last kind lets the registry act as usual. -/
inductive Scripted (op : Operation) where
  | refused (e : RemoteError)
  | granted (a : op.Reply)
  | asUsual

structure Registry where
  stored : List Stored := []
  strays : List Candidate := []
  failing : Operation → Option RemoteError := fun _ => none
  script : (op : Operation) → List (Scripted op) := fun _ => []

namespace Registry

def onFirst (fits : Stored → Bool) (f : Stored → Except RemoteError α × Stored) :
    List Stored → Option (Except RemoteError α × List Stored)
  | [] => none
  | s :: rest =>
    if fits s then
      let (a, s) := f s
      some (a, s :: rest)
    else (onFirst fits f rest).map fun (a, rest) => (a, s :: rest)

def onNamed (r : Registry) (name : String) (f : Stored → Except RemoteError α × Stored) :
    Except RemoteError α × Registry :=
  match onFirst (·.name = name) f r.stored with
  | some (a, stored) => (a, { r with stored := stored })
  | none => (.error (.noRepository name), r)

def onArn (r : Registry) (arn : String) (f : Stored → Except RemoteError α × Stored) :
    Except RemoteError α × Registry :=
  match onFirst (arnOf ·.name = arn) f r.stored with
  | some (a, stored) => (a, { r with stored := stored })
  | none =>
    (.error (.service "InvalidParameterException" ("no repository with arn " ++ arn)), r)

def describe (r : Registry) (names : List String) : Except RemoteError (List Candidate) :=
  let found := r.strays ++
    (r.stored.filter fun s => names = [] || s.name ∈ names).map Stored.describe
  if found = [] ∧ names ≠ [] then .error (.noRepository (String.intercalate "," names))
  else .ok found

def create (r : Registry) (c : Creation) : Except RemoteError Candidate × Registry :=
  if r.stored.any (·.name = c.name) then
    (.error (.service "RepositoryAlreadyExistsException" c.name), r)
  else (.ok c.stored.describe, { r with stored := r.stored ++ [c.stored] })

def delete (r : Registry) (name : String) : Except RemoteError Unit × Registry :=
  if r.stored.any (·.name = name) then
    (.ok (), { r with stored := r.stored.filter (·.name ≠ name) })
  else (.error (.noRepository name), r)

def act (r : Registry) : (q : Request) → Except RemoteError q.Reply × Registry
  | .describe _ names => (r.describe names, r)
  | .create c => r.create c
  | .delete t _ => r.delete t.name
  | .putScanning t onPush => r.onNamed t.name fun s => (.ok (), { s with scanOnPush := onPush })
  | .putMutability t m => r.onNamed t.name fun s => (.ok (), { s with mutability := m })
  | .getLifecycle t => r.onNamed t.name fun s =>
    match s.lifecyclePolicy with
    | some text => (.ok text, s)
    | none => (.error (.noLifecycle s.name), s)
  | .putLifecycle t text => r.onNamed t.name fun s =>
    (.ok (), { s with lifecyclePolicy := some text })
  | .deleteLifecycle t => r.onNamed t.name fun s =>
    match s.lifecyclePolicy with
    | some _ => (.ok (), { s with lifecyclePolicy := none })
    | none => (.error (.noLifecycle s.name), s)
  | .getPolicy t => r.onNamed t.name fun s =>
    match s.policy with
    | some text => (.ok text, s)
    | none => (.error (.noPolicy s.name), s)
  | .setPolicy t text => r.onNamed t.name fun s => (.ok (), { s with policy := some text })
  | .deletePolicy t => r.onNamed t.name fun s =>
    match s.policy with
    | some _ => (.ok (), { s with policy := none })
    | none => (.error (.noPolicy s.name), s)
  | .listTags arn => r.onArn arn fun s => (.ok s.tags, s)
  | .tag arn tags => r.onArn arn fun s => (.ok (), { s with tags := Tag.putAll s.tags tags })
  | .untag arn keys => r.onArn arn fun s => (.ok (), { s with tags := Tag.dropKeys s.tags keys })

def withScript (r : Registry) (op : Operation) (replies : List (Scripted op)) : Registry :=
  { r with script := fun o => if h : o = op then h ▸ replies else r.script o }

def actUnlessFailing (r : Registry) (q : Request) : Except RemoteError q.Reply × Registry :=
  match r.failing q.operation with
  | some e => (.error e, r)
  | none => r.act q

def answer (r : Registry) (q : Request) : Except RemoteError q.Reply × Registry :=
  match r.script q.operation with
  | [] => r.actUnlessFailing q
  | .refused e :: rest => (.error e, r.withScript q.operation rest)
  | .granted a :: rest => (.ok a, r.withScript q.operation rest)
  | .asUsual :: rest => (r.withScript q.operation rest).actUnlessFailing q

def remote : Remote Registry := ⟨answer⟩

def putStored (s : Stored) : List Stored → List Stored
  | [] => [s]
  | t :: rest => if t.name = s.name then s :: rest else t :: putStored s rest

def put (r : Registry) (s : Stored) : Registry := { r with stored := putStored s r.stored }

def drop (r : Registry) (name : String) : Registry :=
  { r with stored := r.stored.filter (·.name ≠ name) }

def withStray (r : Registry) (c : Candidate) : Registry := { r with strays := r.strays ++ [c] }

def withFailing (r : Registry) (op : Operation) (e : RemoteError) : Registry :=
  { r with failing := fun o => if o = op then some e else r.failing o }

def withMoreScript (r : Registry) (op : Operation) (replies : List (Scripted op)) : Registry :=
  r.withScript op (r.script op ++ replies)

def healed (r : Registry) : Registry := { stored := r.stored, strays := r.strays }

end Registry
end Registrar
