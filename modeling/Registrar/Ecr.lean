import Registrar.Json
import Registrar.Pass

/- A remote that speaks the JSON protocol of a container registry service: the bodies of its
   requests and what its replies mean. -/
namespace Registrar.Ecr

def unlessEmpty (as : List α) (json : List α → Json) : Option Json :=
  if as.isEmpty then none else some (json as)

/-- A tag without a value is sent with the empty one. -/
def tagJson (t : Tag) : Json :=
  Json.record [("Key", some (.string t.key)), ("Value", some (.string (textOrEmpty t.value)))]

def tagsJson (tags : List Tag) : Json := .array (tags.map tagJson)

def scanningJson (onPush : Option Bool) : Json :=
  Json.record [("scanOnPush", if onPush = some true then some (.bool true) else none)]

def presetKind : String := "AES256"

def encryptionJson (e : Encryption) : Json :=
  Json.record [("encryptionType", some (.string (e.kind.getD presetKind))),
    ("kmsKey", e.key.map .string)]

def addressed (t : Target) (more : List (String × Option Json)) : Json :=
  Json.record (("registryId", t.registryId.map .string) ::
    ("repositoryName", some (.string t.name)) :: more)

def requestBody : Request → Json
  | .describe registryId names =>
    Json.record [("registryId", registryId.map .string),
      ("repositoryNames", unlessEmpty names .strings)]
  | .create c => addressed ⟨c.registryId, c.name⟩ [
      ("imageTagMutability", c.mutability.map fun m => .string m.word),
      ("imageScanningConfiguration", c.scanning.map fun s => scanningJson s.onPush),
      ("encryptionConfiguration", c.encryption.map encryptionJson),
      ("tags", unlessEmpty c.tags tagsJson)]
  | .delete t force => addressed t [("force", some (.bool force))]
  | .putScanning t onPush =>
    addressed t [("imageScanningConfiguration", some (scanningJson (some onPush)))]
  | .putMutability t m => addressed t [("imageTagMutability", some (.string m.word))]
  | .putLifecycle t text => addressed t [("lifecyclePolicyText", some (.string text))]
  | .setPolicy t text => addressed t [("policyText", some (.string text))]
  | .getLifecycle t | .deleteLifecycle t | .getPolicy t | .deletePolicy t => addressed t []
  | .listTags arn => Json.record [("resourceArn", some (.string arn))]
  | .tag arn tags =>
    Json.record [("resourceArn", some (.string arn)), ("tags", some (tagsJson tags))]
  | .untag arn keys =>
    Json.record [("resourceArn", some (.string arn)), ("tagKeys", some (.strings keys))]

def text? (v : Json) (name : String) : Option String :=
  match v.member? name with
  | some (.string s) => some s
  | _ => none

def items (v : Json) (name : String) : List Json :=
  match v.member? name with
  | some (.array items) => items.filter (!·.isNull)
  | _ => []

def object? (v : Json) (name : String) : Option Json :=
  match v.member? name with
  | some (.object members) => some (.object members)
  | _ => none

def fraction? : Number → Option Binary64
  | .float x => some x
  | .integer z => (Binary64.ofNat? z.natAbs).map fun x => if z < 0 then x.neg else x

/-- Seconds since 1970 began. The part below a second is taken as a binary fraction as well, and
    its nanoseconds are cut off, not rounded; that fraction may have come up to a whole second. -/
def instant? (n : Number) : Option Timestamp := do
  let x ← fraction? n
  let part ← Binary64.ofUnits? false x.aboveFloor 1
  let billion ← Binary64.ofNat? (Digits.tenTo 9)
  let nanos ← part.mul? billion
  let total := x.floor * 1000000000 + nanos.floor
  Timestamp.at? (total / 1000000000) (total % 1000000000).toNat

/-- What the service names a kind of encryption that it does not say. -/
def unsaidKind : String := "no value was set"

def candidate (v : Json) : Candidate where
  name := text? v "repositoryName"
  registryId := text? v "registryId"
  arn := text? v "repositoryArn"
  uri := text? v "repositoryUri"
  createdAt :=
    match v.member? "createdAt" with
    | some (.number n) => instant? n
    | _ => none
  mutability := (text? v "imageTagMutability").bind Mutability.ofWord?
  scanning := (object? v "imageScanningConfiguration").map fun s =>
    ⟨some (match s.member? "scanOnPush" with | some (.bool b) => b | _ => false)⟩
  encryption := (object? v "encryptionConfiguration").map fun e =>
    ⟨some ((text? e "encryptionType").getD unsaidKind), text? e "kmsKey"⟩

def tag (v : Json) : Tag := ⟨textOrEmpty (text? v "Key"), some (textOrEmpty (text? v "Value"))⟩

def granted : (q : Request) → Json → q.Reply
  | .describe .., v => (items v "repositories").map candidate
  | .create _, v => ((object? v "repository").map candidate).getD {}
  | .getLifecycle _, v => textOrEmpty (text? v "lifecyclePolicyText")
  | .getPolicy _, v => textOrEmpty (text? v "policyText")
  | .listTags _, v => (items v "tags").map tag
  | .delete .., _ | .putScanning .., _ | .putMutability .., _ | .putLifecycle .., _
  | .deleteLifecycle _, _ | .setPolicy .., _ | .deletePolicy _, _ | .tag .., _ | .untag .., _ => ()

/-- A code without the address that may follow it after a colon, and without the name space that
    may stand before it and a number sign. -/
def bareCode (code : List Char) : List Char :=
  let code := code.takeWhile (· ≠ ':')
  match code.dropWhile (· ≠ '#') with
  | [] => code
  | _ :: rest => rest

def faultCode? (v : Json) : Option String :=
  ((text? v "code").or (text? v "__type")).map fun c => String.ofList (bareCode c.toList)

def faultMessage (v : Json) : String :=
  textOrEmpty ((text? v "message").or (text? v "Message"))

/-- What a code means for a request. Three codes have a meaning of their own, each for the requests
    that look for such a thing; the name asked for is reported, not the message. -/
def serviceError (q : Request) (code message : String) : RemoteError :=
  let known (meant : String) (e : RemoteError) : RemoteError :=
    if code = meant then e else .service code message
  match q with
  | .describe _ names => known RemoteError.noRepositoryCode
      (.noRepository (String.intercalate "," names))
  | .delete t _ => known RemoteError.noRepositoryCode (.noRepository t.name)
  | .getLifecycle t | .deleteLifecycle t => known RemoteError.noLifecycleCode (.noLifecycle t.name)
  | .getPolicy t | .deletePolicy t => known RemoteError.noPolicyCode (.noPolicy t.name)
  | _ => .service code message

inductive Reply where
  | ok (body : Json)
  | fault (body : Json)
  | disconnected (text : String)
  | timedOut (text : String)

/-- A fault without a code says nothing, not even its message. -/
def refused (q : Request) (v : Json) : RemoteError :=
  match faultCode? v with
  | some code => serviceError q code (faultMessage v)
  | none => .service "Unknown" ""

def unreached (cause text : String) : RemoteError :=
  .transport (chained ["dispatch failure", cause, text])

def interpret (q : Request) : Reply → Except RemoteError q.Reply
  | .ok v => .ok (granted q v)
  | .fault v => .error (refused q v)
  | .disconnected text => .error (unreached "io error" text)
  | .timedOut text => .error (unreached "timeout" text)

def remote : Remote (List Reply) where
  answer
    | [], q => (interpret q (.disconnected "no reply"), [])
    | reply :: rest, q => (interpret q reply, rest)

end Registrar.Ecr
