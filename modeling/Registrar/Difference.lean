import Registrar.Change
import Registrar.Policy
import Registrar.Settings
import Registrar.Snapshot.Encoding
import Registrar.Tag.Delta

/- How a desired snapshot differs from the latest one. An unset attribute counts as its preset. -/
namespace Registrar

namespace Spec

def scansOnPush (s : Spec) (settings : Settings) : Bool :=
  (s.scanning.bind Scanning.onPush).getD settings.presetScan

def effectiveMutability (s : Spec) (settings : Settings) : Mutability :=
  s.mutability.getD settings.presetMutability

end Spec

def presetEncryption : String := "AES256"

namespace Spec

def encryptionKind (s : Spec) : String :=
  (nonEmptyText (s.encryption.bind Encryption.kind)).getD presetEncryption

def encryptionKey (s : Spec) : Option String := s.encryption.bind Encryption.key

end Spec

namespace Difference

abbrev Values := Option (Json × Json)

def scanning (settings : Settings) (desired latest : Spec) : Values :=
  let old := latest.scansOnPush settings
  let new := desired.scansOnPush settings
  if old = new then none
  else some (.object [("scan_on_push", .bool old)], .object [("scan_on_push", .bool new)])

def mutability (settings : Settings) (desired latest : Spec) : Values :=
  let old := latest.effectiveMutability settings
  let new := desired.effectiveMutability settings
  if old = new then none else some (old.json, new.json)

def encryptionJson (s : Spec) : Json :=
  .object [("encryption_type", .string s.encryptionKind), ("kms_key", .ofText s.encryptionKey)]

def encryption (desired latest : Spec) : Values :=
  if latest.encryptionKind = desired.encryptionKind ∧
      sameText latest.encryptionKey desired.encryptionKey then none
  else some (encryptionJson latest, encryptionJson desired)

def policy (old new : Option String) : Values :=
  if samePolicy old new then none else some (.ofText old, .ofText new)

def tags (desired latest : Spec) : Values :=
  if sameTags latest.tags desired.tags then none
  else some (Tag.listJson latest.tags, Tag.listJson desired.tags)

/-- The difference at a field that is compared by its value alone. Tags are not: their order means
    nothing. -/
def valueAt (settings : Settings) (desired latest : Spec) : Field → Values
  | .scanning => scanning settings desired latest
  | .mutability => mutability settings desired latest
  | .encryption => encryption desired latest
  | .lifecyclePolicy => policy latest.lifecyclePolicy desired.lifecyclePolicy
  | .policy => policy latest.policy desired.policy
  | .tags => none

def byValue : List Field := [.scanning, .mutability, .encryption, .lifecyclePolicy, .policy]

end Difference

namespace ChangeSet

def addValues (s : ChangeSet) (field : Field) : Difference.Values → ChangeSet
  | none => s
  | some (old, new) => s.add field old new

abbrev Finder := ChangeSet → (desired latest : Spec) → ChangeSet

def findTags : Finder := fun s desired latest => s.addValues .tags (Difference.tags desired latest)

/-- What `find` finds comes first. A field that differs by value has these values, whatever was
    found there before. -/
def betweenWith (find : Finder) (settings : Settings) (desired latest : Snapshot) : ChangeSet :=
  Difference.byValue.foldl
    (fun s f => s.addValues f (Difference.valueAt settings desired.spec latest.spec f))
    (find empty desired.spec latest.spec)

def between (settings : Settings) (desired latest : Snapshot) : ChangeSet :=
  betweenWith findTags settings desired latest

end ChangeSet
end Registrar
