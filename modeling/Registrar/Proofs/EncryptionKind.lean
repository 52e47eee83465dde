import Registrar.Ecr
import Registrar.Proofs.Mirror
import Registrar.Proofs.Restoring
import Registrar.Proofs.TagNaming

/- The kind of encryption that a repository is created with. Where a configuration names none, the
   preset is sent, and the preset is what the comparison takes it for. The two differ about an empty
   kind: the comparison takes it for the preset as well, and it is sent as it is. -/
namespace Registrar

namespace Ecr

def kindSent? (q : Request) : Option Json := do
  let encryption ← (requestBody q).member? "encryptionConfiguration"
  encryption.member? "encryptionType"

theorem kindSent?_create (c : Creation) :
    kindSent? (.create c) = c.encryption.map fun e => .string (e.kind.getD presetKind) := by
  have sent : (requestBody (.create c)).member? "encryptionConfiguration" =
      c.encryption.map encryptionJson :=
    Json.member?_record (by simp) (by simp)
  rw [kindSent?, sent]
  cases c.encryption with
  | none => rfl
  | some e => exact Json.member?_record (v := some _) (by simp) List.mem_cons_self

end Ecr

namespace Spec

theorem kind_compared_iff {s : Spec} {e : Encryption} (configured : s.encryption = some e) :
    e.kind.getD Ecr.presetKind = s.encryptionKind ↔ e.kind ≠ some "" := by
  rw [encryptionKind, configured, Option.bind_some]
  cases kind : e.kind with
  | none => simp [nonEmptyText, Ecr.presetKind, presetEncryption]
  | some k =>
    by_cases empty : k = ""
    · subst empty
      have preset : (nonEmptyText (some "")).getD presetEncryption = "AES256" := rfl
      simp [preset]
    · simp [nonEmptyText, Option.filter_some, empty]

end Spec

theorem Encryption.kind_ne_empty {e : Encryption} (stated : e.kind ≠ some "") :
    e.kind.getD Ecr.presetKind ≠ "" := by
  cases kind : e.kind with
  | none => decide
  | some k => exact fun empty => stated (kind.trans (congrArg some empty))

theorem Spec.kinds_sent_iff {s s' : Spec} {e e' : Encryption} (configured : s.encryption = some e)
    (configured' : s'.encryption = some e') (agree : s.encryptionKind = s'.encryptionKind) :
    e'.kind.getD Ecr.presetKind = e.kind.getD Ecr.presetKind ↔
      (e'.kind = some "" ↔ e.kind = some "") := by
  -- The empty kind is sent as it is, and no other is sent as empty.
  by_cases empty : e.kind = some ""
  · by_cases empty' : e'.kind = some ""
    · rw [empty, empty']
      exact iff_of_true rfl .rfl
    · refine iff_of_false ?_ fun both => empty' (both.mpr empty)
      rw [empty]
      exact Encryption.kind_ne_empty empty'
  · by_cases empty' : e'.kind = some ""
    · refine iff_of_false ?_ fun both => empty (both.mp empty')
      rw [empty']
      exact (Encryption.kind_ne_empty empty).symm
    · refine iff_of_true ?_ (iff_of_false empty' empty)
      rw [(kind_compared_iff configured).mpr empty, (kind_compared_iff configured').mpr empty', agree]

section
variable {settings : Settings} {desired : Snapshot} {latest : Option Snapshot} {limit : Option Nat}

theorem created_as_desired {remote : Remote σ} {s : σ} {q : Request}
    (made : q ∈ ((reconcile settings desired latest).run remote limit s).calls)
    (creates : q.operation = .create) : q = .create desired.spec.creation := by
  have course := course_of_attempt remote limit (reconcile settings desired latest) s
  rw [← Attempt.exchanges_requests] at made
  obtain ⟨x, member, rfl⟩ := List.mem_map.mp made
  rcases ((reconciling_of_course course).asked x member).created_or_names_once with same | ⟨other, _⟩
  · exact same
  · exact absurd creates other

/-- A creation is sent with the kind that is compared exactly if the desired configuration does not
    name the empty kind. Of two configurations that are compared as equal, the same kind is sent
    exactly if both or neither name it. -/
theorem kind_sent_as_compared_iff (remote : Remote σ) (limit : Option Nat) (settings : Settings)
    (desired : Snapshot) (latest : Option Snapshot) (s : σ) {e : Encryption}
    (configured : desired.spec.encryption = some e) :
    let calls := ((reconcile settings desired latest).run remote limit s).calls
    (∀ q ∈ calls, q.operation = .create →
        Ecr.kindSent? q = some (.string (e.kind.getD Ecr.presetKind))) ∧
      ((∀ q ∈ calls, q.operation = .create →
          Ecr.kindSent? q = some (.string desired.spec.encryptionKind)) ↔
        e.kind ≠ some "" ∨ ∀ q ∈ calls, q.operation ≠ .create) ∧
      ∀ (other : Spec) (e' : Encryption), other.encryption = some e' →
        Difference.encryption desired.spec other = none →
        (Ecr.kindSent? (.create other.creation) = Ecr.kindSent? (.create desired.spec.creation) ↔
          (e'.kind = some "" ↔ e.kind = some "")) := by
  intro calls
  have sent {s : Spec} {e : Encryption} (configured : s.encryption = some e) :
      Ecr.kindSent? (.create s.creation) = some (.string (e.kind.getD Ecr.presetKind)) := by
    rw [Ecr.kindSent?_create, Spec.creation, configured, Option.map_some]
  have each : ∀ q ∈ calls, q.operation = .create →
      Ecr.kindSent? q = some (.string (e.kind.getD Ecr.presetKind)) := by
    intro q made creates
    rw [created_as_desired made creates]
    exact sent configured
  refine ⟨each, ⟨?_, ?_⟩, ?_⟩
  · intro compared
    by_cases created : ∃ q ∈ calls, q.operation = .create
    · obtain ⟨q, made, creates⟩ := created
      have same := (each q made creates).symm.trans (compared q made creates)
      simp only [Option.some.injEq, Json.string.injEq] at same
      exact .inl ((Spec.kind_compared_iff configured).mp same)
    · exact .inr fun q made creates => created ⟨q, made, creates⟩
  · rintro (stated | uncreated) q made creates
    · rw [each q made creates, (Spec.kind_compared_iff configured).mpr stated]
    · exact absurd creates (uncreated q made)
  · intro other e' configured' same
    have same : Difference.at settings desired.spec other .encryption = none := same
    have agree : desired.spec.encryptionKind = other.encryptionKind :=
      (Difference.at_eq_none_iff.mp same).1
    rw [sent configured, sent configured', Option.some.injEq, Json.string.injEq]
    exact Spec.kinds_sent_iff configured configured' agree

end

def Ecr.made : Ecr.Reply :=
  .ok (.object [("repository", .object [("registryId", .string "123456789012"),
    ("repositoryArn", .string "arn:aws:ecr:us-west-2:123456789012:repository/app"),
    ("repositoryName", .string "app")])])

theorem unstated_kind_is_sent_as_compared :
    let desired : Snapshot := { spec := { name := "app", encryption := some ⟨none, some "key"⟩ } }
    let calls := ((reconcile (.of "123456789012" "us-west-2") desired none).run Ecr.remote none
      [Ecr.made]).calls
    (∃ q ∈ calls, q.operation = .create) ∧
      ∀ q ∈ calls, q.operation = .create → Ecr.kindSent? q = some (.string "AES256") := by
  intro desired calls
  have sent := (kind_sent_as_compared_iff Ecr.remote none (.of "123456789012" "us-west-2") desired none
    [Ecr.made] (e := ⟨none, some "key"⟩) rfl).2.1
  exact ⟨⟨_, List.mem_cons_self, rfl⟩, sent.mpr (.inl (by decide))⟩

theorem empty_kind_is_sent :
    let desired : Snapshot := { spec := { name := "app", encryption := some ⟨some "", none⟩ } }
    let preset : Snapshot := { spec := { name := "app", encryption := some ⟨some "AES256", none⟩ } }
    let sent (desired : Snapshot) := ((reconcile (.of "123456789012" "us-west-2") desired none).run
      Ecr.remote none [Ecr.made]).calls.map Ecr.kindSent?
    Difference.encryption desired.spec preset.spec = none ∧
      desired.spec.encryptionKind = "AES256" ∧
      sent desired = [some (.string "")] ∧ sent preset = [some (.string "AES256")] :=
  ⟨rfl, rfl, rfl, rfl⟩

end Registrar
