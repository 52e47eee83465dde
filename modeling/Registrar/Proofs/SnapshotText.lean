import Registrar.Proofs.Calendar
import Registrar.Proofs.Restoring
import Registrar.Snapshot.Encoding

/- Snapshots survive being written and read. Each part is restored by its own reader, whatever the
   order of the members, so the text and the value that is read from the text both lead back. -/
namespace Registrar

open Json (Document Fault Plain plain_record plain_array)
open Reading (Origin Record Restores restores_record restores_string restores_boolean
  restores_sequence)

theorem Reading.Record.Shows.text {r : Record} {members : List (String × Option Json)} {name : String}
    {value : Option String} (shown : r.Shows members) (member : (name, value.map .string) ∈ members) :
    r.optional name Reading.string = .ok value :=
  shown.optional member (fun _ => rfl) fun s _ => restores_string s

theorem Mutability.restores (origin : Origin) (m : Mutability) :
    Restores (Mutability.ofDocument origin) m.json m := by
  intro w reordered
  cases m <;> cases reordered <;> rfl

theorem Timestamp.restores {t : Timestamp} (dated : 0 ≤ t.year) :
    Restores Timestamp.ofDocument t.json t := by
  intro w reordered
  cases reordered
  simp only [Json.document, Timestamp.ofDocument, String.toList_ofList, Timestamp.read_write dated]

theorem Tag.restores (origin : Origin) (t : Tag) : Restores (Tag.ofDocument origin) t.json t := by
  refine restores_record rfl (by decide) fun r shown => ?_
  have key : r.required "key" Reading.string = .ok t.key :=
    shown.required (by simp) (restores_string t.key)
  have value : r.optional "value" Reading.string = .ok t.value := shown.text (by simp)
  rw [key, value]
  rfl

theorem Scanning.restores (origin : Origin) (s : Scanning) :
    Restores (Scanning.ofDocument origin) s.json s := by
  refine restores_record rfl (by decide) fun r shown => ?_
  have onPush : r.optional "scan_on_push" Reading.boolean = .ok s.onPush :=
    shown.optional (by simp) (fun _ => rfl) fun b _ => restores_boolean b
  rw [onPush]
  rfl

theorem Encryption.restores (origin : Origin) (e : Encryption) :
    Restores (Encryption.ofDocument origin) e.json e := by
  refine restores_record rfl (by decide) fun r shown => ?_
  have kind : r.optional "encryption_type" Reading.string = .ok e.kind := shown.text (by simp)
  have key : r.optional "kms_key" Reading.string = .ok e.key := shown.text (by simp)
  rw [kind, key]
  rfl

theorem Condition.restores (origin : Origin) (c : Condition) :
    Restores (Condition.ofDocument origin) c.json c := by
  refine restores_record rfl (by decide) fun r shown => ?_
  have holds : r.required "status" Reading.boolean = .ok c.holds :=
    shown.required (by simp) (restores_boolean c.holds)
  have message : r.optional "message" Reading.string = .ok c.message := shown.text (by simp)
  rw [holds, message]
  rfl

theorem Spec.restores (origin : Origin) (s : Spec) : Restores (Spec.ofDocument origin) s.json s := by
  refine restores_record rfl (by decide) fun r shown => ?_
  have name : r.required "name" Reading.string = .ok s.name :=
    shown.required (by simp) (restores_string s.name)
  have registry : r.optional "registry_id" Reading.string = .ok s.registryId := shown.text (by simp)
  have scanning : r.optional "image_scanning_configuration" (Scanning.ofDocument origin) =
      .ok s.scanning :=
    shown.optional (by simp) (fun _ => rfl) fun c _ => c.restores origin
  have mutability : r.optional "image_tag_mutability" (Mutability.ofDocument origin) =
      .ok s.mutability :=
    shown.optional (by simp) (fun _ => rfl) fun m _ => m.restores origin
  have encryption : r.optional "encryption_configuration" (Encryption.ofDocument origin) =
      .ok s.encryption :=
    shown.optional (by simp) (fun _ => rfl) fun e _ => e.restores origin
  have lifecycle : r.optional "lifecycle_policy" Reading.string = .ok s.lifecyclePolicy :=
    shown.text (by simp)
  have policy : r.optional "policy" Reading.string = .ok s.policy := shown.text (by simp)
  have tags : r.defaulted "tags" [] (Reading.sequence (Tag.ofDocument origin)) = .ok s.tags :=
    shown.defaulted (by simp [Tag.listJson])
      (restores_sequence fun t _ => t.restores origin) []
  rw [name, registry, scanning, mutability, encryption, lifecycle, policy, tags]
  rfl

theorem Status.restores (origin : Origin) {s : Status}
    (dated : ∀ t, s.createdAt = some t → 0 ≤ t.year) :
    Restores (Status.ofDocument origin) s.json s := by
  refine restores_record rfl (by decide) fun r shown => ?_
  have created : r.optional "created_at" Timestamp.ofDocument = .ok s.createdAt :=
    shown.optional (by simp) (fun _ => rfl) fun t some => Timestamp.restores (dated t some)
  have arn : r.optional "arn" Reading.string = .ok s.arn := shown.text (by simp)
  have owner : r.optional "owner_account_id" Reading.string = .ok s.ownerAccount :=
    shown.text (by simp)
  have region : r.optional "region" Reading.string = .ok s.region := shown.text (by simp)
  have registry : r.optional "registry_id" Reading.string = .ok s.registryId := shown.text (by simp)
  have uri : r.optional "repository_uri" Reading.string = .ok s.uri := shown.text (by simp)
  have synced : r.optional "synced" (Condition.ofDocument origin) = .ok s.synced :=
    shown.optional (by simp) (fun _ => rfl) fun c _ => c.restores origin
  have terminal : r.optional "terminal" (Condition.ofDocument origin) = .ok s.terminal :=
    shown.optional (by simp) (fun _ => rfl) fun c _ => c.restores origin
  have blocked : r.optional "terminal_spec" (Spec.ofDocument origin) = .ok s.terminalSpec :=
    shown.optional (by simp) (fun _ => rfl) fun t _ => t.restores origin
  rw [created, arn, owner, region, registry, uri, synced, terminal, blocked]
  rfl

namespace Snapshot

theorem restores (origin : Origin) {r : Snapshot}
    (dated : ∀ t, r.status.createdAt = some t → 0 ≤ t.year) :
    Restores (Snapshot.ofDocument origin) r.json r := by
  refine restores_record rfl (by decide) fun record shown => ?_
  have spec : record.required "spec" (Spec.ofDocument origin) = .ok r.spec :=
    shown.required (by simp) (r.spec.restores origin)
  have status : record.defaulted "status" {} (Status.ofDocument origin) = .ok r.status :=
    shown.defaulted (by simp) (Status.restores origin dated) {}
  rw [spec, status]
  rfl

end Snapshot

section
variable {depth : Nat}

theorem Tag.plain (t : Tag) : Plain (depth + 1) t.json :=
  plain_record (show Tag.fields.Nodup by decide) (by simp [Plain])

theorem Scanning.plain (s : Scanning) : Plain (depth + 1) s.json := by
  refine plain_record (show Scanning.fields.Nodup by decide) ?_
  obtain ⟨onPush⟩ := s
  cases onPush <;> simp [Plain]

theorem Encryption.plain (e : Encryption) : Plain (depth + 1) e.json :=
  plain_record (show Encryption.fields.Nodup by decide) (by simp [Plain])

theorem Condition.plain (c : Condition) : Plain (depth + 1) c.json :=
  plain_record (show Condition.fields.Nodup by decide) (by simp [Plain])

theorem Spec.plain (s : Spec) : Plain (depth + 3) s.json := by
  refine plain_record (show Spec.fields.Nodup by decide) ?_
  have tags : Plain (depth + 2) (Tag.listJson s.tags) := plain_array fun t _ => t.plain
  simp [Plain, Mutability.json, Scanning.plain, Encryption.plain, tags]

theorem Status.plain (s : Status) : Plain (depth + 4) s.json :=
  plain_record (show Status.fields.Nodup by decide)
    (by simp [Plain, Timestamp.json, Condition.plain, Spec.plain])

theorem Snapshot.plain (r : Snapshot) : Plain (depth + 5) r.json :=
  plain_record (show Snapshot.fields.Nodup by decide) (by simp [Spec.plain, Status.plain])

end

namespace Snapshot

/-- However the encoding is laid out and its strings are spelled, the text leads back. -/
theorem ofText_rendered {r : Snapshot} (dated : ∀ t, r.status.createdAt = some t → 0 ≤ t.year)
    {v : Json} (same : Json.Reordered r.json v) {w text w' : List Char} (before : Json.Space w)
    (written : Json.Renders v text) (after : Json.Space w') :
    ofText (w ++ (text ++ w')) = .ok r := by
  rw [ofText, Json.ofText_rendered before written after]
  simp only [r.restores .text dated v same]
  rfl

theorem ofJson_reordered {r : Snapshot} (dated : ∀ t, r.status.createdAt = some t → 0 ≤ t.year)
    {v : Json} (same : Json.Reordered r.json v) : ofJson v = .ok r :=
  Snapshot.restores .value dated v same

end Snapshot

/-- What is written of a snapshot is read as that snapshot: as a value, as text, and by way of the
    value that the text says. No instant that is kept lies after the year 9999, and those before the
    year 0 have a year of six digits and a sign, which is not read. -/
theorem encoded_snapshot_is_restored {r : Snapshot}
    (dated : ∀ t, r.status.createdAt = some t → 0 ≤ t.year ∧ t.year ≤ 9999) :
    Snapshot.ofJson r.json = .ok r ∧ Snapshot.ofText r.json.render = .ok r ∧
      (Json.parse? r.json.render).map Snapshot.ofJson = some (.ok r) ∧
      ∀ text, Snapshot.ofText text = .ok r → Snapshot.ofText r.json.render = Snapshot.ofText text := by
  have dated : ∀ t, r.status.createdAt = some t → 0 ≤ t.year := fun t some => (dated t some).1
  have plain : Plain Document.greatestDepth r.json := r.plain
  have written := Json.renders_render r.json plain
  have read := Snapshot.ofText_rendered dated (Json.Reordered.refl r.json) Json.space_nil written
    Json.space_nil
  have said := Json.parse?_unspaced plain written
  rw [List.nil_append, List.append_nil] at read
  refine ⟨Snapshot.ofJson_reordered dated (Json.Reordered.refl r.json), read, ?_, ?_⟩
  · rw [said, Option.map_some]
    exact congrArg some (Snapshot.ofJson_reordered dated (Json.reordered_ordered r.json plain))
  · intro text decoded
    rw [read, decoded]

def Snapshot.blocked : Snapshot where
  spec := { name := "app", registryId := some "", scanning := some ⟨none⟩, policy := some "\"\\\n\u20ac"
            tags := [⟨"env", some ""⟩, ⟨"env", none⟩] }
  status := { createdAt := Timestamp.at? 1700000000 500000000
              terminal := some (.unmet ""), terminalSpec := some { name := "" } }

theorem blocked_snapshot_is_restored :
    (∀ t, Snapshot.blocked.status.createdAt = some t → 0 ≤ t.year ∧ t.year ≤ 9999) ∧
      Snapshot.ofText Snapshot.blocked.json.render = .ok Snapshot.blocked := by
  have dated : ∀ t, Snapshot.blocked.status.createdAt = some t → 0 ≤ t.year ∧ t.year ≤ 9999 := by
    intro t kept
    obtain rfl := Option.some.inj kept
    decide
  exact ⟨dated, (encoded_snapshot_is_restored dated).2.1⟩

end Registrar
