import Registrar.Snapshot
import Registrar.Timestamp.Text
import Registrar.Json.Reading

/- Snapshots as JSON. Optional members are left out when absent; tags and status are always
   written. Reading leaves out nothing that was written. -/
namespace Registrar

open Json (Document Fault)
open Reading (Origin Record)

def Timestamp.json (t : Timestamp) : Json := .string (String.ofList t.write)

def Timestamp.ofDocument : Document → Except Fault Timestamp
  | .string (some s) =>
    match Timestamp.read s.toList with
    | some t => .ok t
    | none => .error .instant
  | d => .error (d.mismatch "a timestamp string")

def Mutability.json (m : Mutability) : Json := .string m.word

def Mutability.ofDocument (origin : Origin) : Document → Except Fault Mutability :=
  Reading.word origin Mutability.all Mutability.word

def Tag.json (t : Tag) : Json :=
  .record [("key", some (.string t.key)), ("value", t.value.map .string)]

def Tag.fields : List String := ["key", "value"]

def Tag.ofDocument (origin : Origin) : Document → Except Fault Tag :=
  Record.read origin "Tag" Tag.fields fun r =>
    Tag.mk <$> r.required "key" Reading.string <*> r.optional "value" Reading.string

def Tag.listJson (tags : List Tag) : Json := .array (tags.map Tag.json)

def Scanning.json (s : Scanning) : Json := .record [("scan_on_push", s.onPush.map .bool)]

def Scanning.fields : List String := ["scan_on_push"]

def Scanning.ofDocument (origin : Origin) : Document → Except Fault Scanning :=
  Record.read origin "ImageScanningConfiguration" Scanning.fields fun r =>
    Scanning.mk <$> r.optional "scan_on_push" Reading.boolean

def Encryption.json (e : Encryption) : Json :=
  .record [("encryption_type", e.kind.map .string), ("kms_key", e.key.map .string)]

def Encryption.fields : List String := ["encryption_type", "kms_key"]

def Encryption.ofDocument (origin : Origin) : Document → Except Fault Encryption :=
  Record.read origin "EncryptionConfiguration" Encryption.fields fun r =>
    Encryption.mk <$> r.optional "encryption_type" Reading.string
      <*> r.optional "kms_key" Reading.string

def Condition.json (c : Condition) : Json :=
  .record [("status", some (.bool c.holds)), ("message", c.message.map .string)]

def Condition.fields : List String := ["status", "message"]

def Condition.ofDocument (origin : Origin) : Document → Except Fault Condition :=
  Record.read origin "Condition" Condition.fields fun r =>
    Condition.mk <$> r.required "status" Reading.boolean <*> r.optional "message" Reading.string

def Spec.json (s : Spec) : Json :=
  .record [
    ("name", some (.string s.name)),
    ("registry_id", s.registryId.map .string),
    ("image_scanning_configuration", s.scanning.map Scanning.json),
    ("image_tag_mutability", s.mutability.map Mutability.json),
    ("encryption_configuration", s.encryption.map Encryption.json),
    ("lifecycle_policy", s.lifecyclePolicy.map .string),
    ("policy", s.policy.map .string),
    ("tags", some (Tag.listJson s.tags))]

def Spec.fields : List String :=
  ["name", "registry_id", "image_scanning_configuration", "image_tag_mutability",
    "encryption_configuration", "lifecycle_policy", "policy", "tags"]

def Spec.ofDocument (origin : Origin) : Document → Except Fault Spec :=
  Record.read origin "RepositorySpec" Spec.fields fun r =>
    Spec.mk <$> r.required "name" Reading.string
      <*> r.optional "registry_id" Reading.string
      <*> r.optional "image_scanning_configuration" (Scanning.ofDocument origin)
      <*> r.optional "image_tag_mutability" (Mutability.ofDocument origin)
      <*> r.optional "encryption_configuration" (Encryption.ofDocument origin)
      <*> r.optional "lifecycle_policy" Reading.string
      <*> r.optional "policy" Reading.string
      <*> r.defaulted "tags" [] (Reading.sequence (Tag.ofDocument origin))

def Status.json (s : Status) : Json :=
  .record [
    ("created_at", s.createdAt.map Timestamp.json),
    ("arn", s.arn.map .string),
    ("owner_account_id", s.ownerAccount.map .string),
    ("region", s.region.map .string),
    ("registry_id", s.registryId.map .string),
    ("repository_uri", s.uri.map .string),
    ("synced", s.synced.map Condition.json),
    ("terminal", s.terminal.map Condition.json),
    ("terminal_spec", s.terminalSpec.map Spec.json)]

def Status.fields : List String :=
  ["created_at", "arn", "owner_account_id", "region", "registry_id", "repository_uri", "synced",
    "terminal", "terminal_spec"]

def Status.ofDocument (origin : Origin) : Document → Except Fault Status :=
  Record.read origin "RepositoryStatus" Status.fields fun r =>
    Status.mk <$> r.optional "created_at" Timestamp.ofDocument
      <*> r.optional "arn" Reading.string
      <*> r.optional "owner_account_id" Reading.string
      <*> r.optional "region" Reading.string
      <*> r.optional "registry_id" Reading.string
      <*> r.optional "repository_uri" Reading.string
      <*> r.optional "synced" (Condition.ofDocument origin)
      <*> r.optional "terminal" (Condition.ofDocument origin)
      <*> r.optional "terminal_spec" (Spec.ofDocument origin)

namespace Snapshot

def json (r : Snapshot) : Json :=
  .record [("spec", some r.spec.json), ("status", some r.status.json)]

def fields : List String := ["spec", "status"]

def ofDocument (origin : Origin) : Document → Except Fault Snapshot :=
  Record.read origin "Repository" fields fun r =>
    Snapshot.mk <$> r.required "spec" (Spec.ofDocument origin)
      <*> r.defaulted "status" {} (Status.ofDocument origin)

def ofJson (v : Json) : Except Fault Snapshot := ofDocument .value v.document

/-- Reads a snapshot from the text itself, which may be wrong after the first fault, and in the
    values of members that are not known. -/
def ofText (text : List Char) : Except Fault Snapshot :=
  match Document.ofText text with
  | (d, ended) => do
    let r ← ofDocument .text d
    if ended then .ok r else .error .grammar

end Snapshot
end Registrar
