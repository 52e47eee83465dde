import Registrar.Snapshot.Encoding
import Registrar.Json.Printer
import Registrar.Failure

/- Settings as JSON, and the text of a settings file. Files of version 0, which had no list of
   terminal codes, are brought up to date before they are read. -/
namespace Registrar

open Json (Document Fault)
open Reading (Record)

namespace Settings

def json (s : Settings) : Json :=
  .object [
    ("config_version", .natural s.version.toNat),
    ("account_id", .string s.account),
    ("region", .string s.region),
    ("default_scan_on_push", .bool s.presetScan),
    ("default_image_tag_mutability", s.presetMutability.json),
    ("terminal_error_codes", .strings s.terminalCodes),
    ("create_followup_requeue_secs", .natural s.requeueSeconds.toNat)]

def fields : List String :=
  ["config_version", "account_id", "region", "default_scan_on_push",
    "default_image_tag_mutability", "terminal_error_codes", "create_followup_requeue_secs"]

def word32 (d : Document) : Except Fault UInt32 :=
  (Reading.natural UInt32.size "u32" d).map UInt32.ofNat

def word64 (d : Document) : Except Fault UInt64 :=
  (Reading.natural UInt64.size "u64" d).map UInt64.ofNat

def ofDocument : Document → Except Fault Settings :=
  Record.read .value "ReconcilerConfig" fields fun r =>
    Settings.mk <$> r.defaulted "config_version" 0 word32
      <*> r.required "account_id" Reading.string
      <*> r.required "region" Reading.string
      <*> r.defaulted "default_scan_on_push" false Reading.boolean
      <*> r.defaulted "default_image_tag_mutability" Mutability.preset
        (Mutability.ofDocument .value)
      <*> r.defaulted "terminal_error_codes" [] (Reading.sequence Reading.string)
      <*> r.defaulted "create_followup_requeue_secs" presetRequeueSeconds word64

def ofJson (v : Json) : Except Fault Settings := ofDocument v.document

/-- The version that a value declares. Whatever is no natural number of 64 bits counts as none,
    and none counts as 0. -/
def declaredVersion (v : Json) : Nat :=
  match v.member? "config_version" with
  | some (.number (.integer z)) => if 0 ≤ z then z.toNat else 0
  | _ => 0

def migrated (v : Json) : Except Failure Json :=
  let version := declaredVersion v
  if UInt32.size ≤ version then .error (.unusable (Defect.versionOutOfRange version).message)
  else if currentVersion.toNat < version then
    .error (.unusable (Defect.versionTooNew version).message)
  else if version < 1 then
    match v with
    | .object members =>
      let members :=
        if (members.lookup "terminal_error_codes").isSome then members
        else Json.putMember "terminal_error_codes" (.array []) members
      .ok (.object (Json.putMember "config_version" (.natural currentVersion.toNat) members))
    | _ => .error (.unusable Defect.notAnObject.message)
  else .ok v

def validate (s : Settings) : Except Failure Unit :=
  match s.defect? with
  | some d => .error (.unusable d.message)
  | none => .ok ()

def load (text : List Char) : Except Failure Settings :=
  match Json.parse? text with
  | none => .error (.unreadable .grammar)
  | some v => do
    let v ← migrated v
    match ofJson v with
    | .error f => .error (.unreadable f)
    | .ok s => do
      s.validate
      .ok s

/-- The text that a file of these settings holds, stamped with the current version. -/
def fileText (s : Settings) : List Char := { s with version := currentVersion }.json.renderLines 0

end Settings
end Registrar
