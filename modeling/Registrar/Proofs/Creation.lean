import Registrar.Proofs.Settling

/- A new repository and the pass after the one that created it. A creation asks for what is desired
   and leaves unset what is unset, so that the registry's own presets hold there, and not those of the
   settings. The next pass compares by the presets of the settings. -/
namespace Registrar

/-- What is unset has the same preset in the settings as a new repository has. -/
structure Spec.PresetsHold (settings : Settings) (s : Spec) : Prop where
  scanning : s.scanning.bind Scanning.onPush = none → settings.presetScan = false
  mutability : s.mutability = none → settings.presetMutability = .mutable

def Spec.firstStored (s : Spec) : Stored :=
  { s.creation.stored with
    lifecyclePolicy := nonEmptyText s.lifecyclePolicy
    policy := nonEmptyText s.policy }

section
variable {settings : Settings} {desired : Snapshot} {r : Registry}

theorem samePolicy_nonEmpty (text : Option String) : samePolicy (nonEmptyText text) text = true := by
  cases stated : nonEmptyText text with
  | none => exact samePolicy_none stated
  | some t => exact samePolicy_desired stated

theorem firstStored_settled_iff :
    Settled settings desired desired.spec.firstStored ↔ desired.spec.PresetsHold settings := by
  constructor
  · rintro ⟨scanning, mutability, _, _, _⟩
    constructor
    · intro unset
      simpa [Spec.firstStored, Spec.creation, Creation.stored, Spec.scansOnPush, unset] using scanning
    · intro unset
      have same : .mutable = settings.presetMutability := by
        simpa [Spec.firstStored, Spec.creation, Creation.stored, Spec.effectiveMutability, unset]
          using mutability
      exact same.symm
  · rintro ⟨scanning, mutability⟩
    refine ⟨?_, ?_, samePolicy_nonEmpty _, samePolicy_nonEmpty _, sameTags_iff.mpr fun _ => rfl⟩
    · cases set : desired.spec.scanning.bind Scanning.onPush with
      | none =>
        simp [Spec.firstStored, Spec.creation, Creation.stored, Spec.scansOnPush, set, scanning set]
      | some onPush =>
        simp [Spec.firstStored, Spec.creation, Creation.stored, Spec.scansOnPush, set]
    · cases set : desired.spec.mutability with
      | none =>
        simp [Spec.firstStored, Spec.creation, Creation.stored, Spec.effectiveMutability, set,
          mutability set]
      | some m =>
        simp [Spec.firstStored, Spec.creation, Creation.stored, Spec.effectiveMutability, set]

theorem followUps_taken {made : Snapshot} {s : Stored} (name : made.name = s.name) :
    Taken s made.followUps := by
  rw [Snapshot.followUps]
  cases nonEmptyText made.spec.lifecyclePolicy with
  | none =>
    cases nonEmptyText made.spec.policy with
    | none => exact .nil _
    | some policy => exact .cons name (.nil _)
  | some lifecycle =>
    cases nonEmptyText made.spec.policy with
    | none => exact .cons name (.nil _)
    | some policy => exact .cons name (.cons name (.nil _))

theorem followUps_stored (c : Candidate) :
    desired.spec.creation.stored.afterAll (desired.createdAs c settings).followUps =
      desired.spec.firstStored := by
  rw [Snapshot.followUps, Spec.firstStored]
  change Stored.afterAll _ ((nonEmptyText desired.spec.lifecyclePolicy).toList.map _ ++
    (nonEmptyText desired.spec.policy).toList.map _) = _
  cases nonEmptyText desired.spec.lifecyclePolicy <;> cases nonEmptyText desired.spec.policy <;> rfl

theorem act_create (absent : r.held? desired.name = none) :
    r.act (.create desired.spec.creation) = (.ok desired.spec.creation.stored.describe,
      { r with stored := r.stored ++ [desired.spec.creation.stored] }) := by
  have free : r.stored.any (·.name = desired.spec.creation.name) = false := by
    rw [List.any_eq_false]
    exact List.find?_eq_none.mp absent
  simp only [Registry.act, Registry.create, free, Bool.false_eq_true, if_false]

theorem holds_created (calm : r.Calm) (absent : r.held? desired.name = none)
    (foreign : ∀ c ∈ r.strays, c.name ≠ some desired.name) :
    Holds { r with stored := r.stored ++ [desired.spec.creation.stored] }
      desired.spec.creation.stored := by
  refine Registry.Calm.holds ⟨calm.failing, calm.script⟩ ?_ foreign
  rw [Registry.held?, List.find?_append]
  rw [Registry.held?] at absent
  rw [show desired.spec.creation.stored.name = desired.name from rfl, absent]
  simp [show desired.spec.creation.stored.name = desired.name from rfl]

theorem created_calm {xs : List Exchange} {res : Except Failure Outcome} {u : Registry}
    (calm : r.Calm) (absent : r.held? desired.name = none)
    (foreign : ∀ c ∈ r.strays, c.name ≠ some desired.name)
    (creation : Creating none settings desired xs res) (replays : Replays Registry.remote r xs u) :
    u = Registry.put { r with stored := r.stored ++ [desired.spec.creation.stored] }
        desired.spec.firstStored ∧
      res = .ok ((desired.createdAs desired.spec.creation.stored.describe settings).madeOutcome
        settings none) := by
  have acted : r.answer (.create desired.spec.creation) = (.ok desired.spec.creation.stored.describe,
      { r with stored := r.stored ++ [desired.spec.creation.stored] }) := by
    rcases @Registry.answer_unscripted r (.create desired.spec.creation) (calm.script _) with
      ⟨e, failing, _⟩ | ⟨_, h⟩
    · rw [calm.failing] at failing
      cases failing
    · exact h.trans (act_create absent)
  cases creation with
  | refused ended =>
    rcases ended.single_stopped with ⟨_, cut⟩ | ⟨e, rfl⟩
    · exact absurd rfl cut
    · cases replays with
      | cons answer _ => cases answer.symm.trans acted
  | made followed =>
    cases replays with
    | cons answer replays =>
      cases answer.symm.trans acted
      have holds := holds_created calm absent foreign
      obtain ⟨done, rest, parted, _, left, ended⟩ :=
        failFast_taken followed holds (followUps_taken rfl) replays
      rcases ended with ⟨rfl, rfl, _⟩ | ⟨_, disturbed⟩
      · rw [List.append_nil] at parted
        rw [← parted, followUps_stored] at left
        exact ⟨left, rfl⟩
      · have calm' : Registry.Calm { r with stored := r.stored ++ [desired.spec.creation.stored] } :=
          ⟨calm.failing, calm.script⟩
        exact absurd disturbed calm'.undisturbed

theorem creating_of_reconciling {limit : Option Nat} {xs : List Exchange}
    {res : Except Failure Outcome} (named : desired.name ≠ "")
    (course : Reconciling limit settings desired none xs res) :
    Creating limit settings desired xs res := by
  cases course with
  | unnamed nameless => exact absurd nameless named
  | created creation => exact creation

/-- Undisturbed, the creation of a repository ends with all its policies set. The next pass finds it
    in sync, and changes nothing, exactly if the presets that the settings have for what is unset are
    those of the registry. -/
theorem created_in_sync_iff (named : desired.name ≠ "") (calm : r.Calm)
    (absent : r.held? desired.name = none)
    (foreign : ∀ c ∈ r.strays, c.name ≠ some desired.name) :
    let first := (reconcile settings desired none).run Registry.remote none r
    ∃ outcome, first.result = .ok outcome ∧ outcome.state = .created ∧
      outcome.snapshot.status.synced = some .met ∧
      let second := (reconcile settings desired (some outcome.snapshot)).run Registry.remote none
        first.state
      (second.mutations = [] ∧ (∃ again, second.result = .ok again ∧ again.state = .inSync) ↔
        desired.spec.PresetsHold settings) := by
  intro first
  have course := course_of_attempt Registry.remote none (reconcile settings desired none) r
  obtain ⟨left, result⟩ := created_calm calm absent foreign
    (creating_of_reconciling named (reconciling_of_course course)) (course_replays course)
  refine ⟨_, result, rfl, rfl, ?_⟩
  intro second
  have calm' : first.state.Calm := left ▸ ⟨calm.failing, calm.script⟩
  have foreign' : ∀ c ∈ first.state.strays, c.name ≠ some desired.name := left ▸ foreign
  have fine : ((desired.createdAs desired.spec.creation.stored.describe settings).madeOutcome
      settings none).snapshot.isTerminal = false := rfl
  have held : first.state.held? desired.name = some desired.spec.firstStored := by
    rw [show first.state = _ from left, Registry.held_put]
    exact if_pos rfl
  rw [← firstStored_settled_iff]
  constructor
  · rintro ⟨kept, _⟩
    obtain ⟨_, asked, _⟩ := reconcile_calm calm' foreign' held named
      (@unblocked_of_isTerminal settings desired _ fine)
    exact settled_iff.mpr (asked.symm.trans kept)
  · intro settled
    exact reconcile_settled calm' foreign' held named settled fine

end

/-- The settings preset scanning, the new repository is not scanned, and the next pass has to say so. -/
theorem preset_scanning_comes_late :
    let settings := { Settings.of "123456789012" "us-west-2" with presetScan := true }
    let first := (reconcile settings (.named "app") none).run Registry.remote none {}
    ∃ outcome, first.result = .ok outcome ∧ outcome.state = .created ∧
      outcome.snapshot.status.synced = some .met ∧
      let second := (reconcile settings (.named "app") (some outcome.snapshot)).run Registry.remote
        none first.state
      second.mutations = [.putScanning ⟨none, "app"⟩ true] ∧
        second.result.toOption.map Outcome.state = some .converged :=
  ⟨_, rfl, rfl, rfl, by decide, by decide⟩

theorem set_scanning_stays_in_sync :
    let settings := { Settings.of "123456789012" "us-west-2" with presetScan := true }
    let desired : Snapshot :=
      { spec := { name := "app", scanning := some ⟨some false⟩, policy := some "[]" } }
    let first := (reconcile settings desired none).run Registry.remote none { stored := [{ name := "base" }] }
    ∃ outcome, first.result = .ok outcome ∧ outcome.state = .created ∧
      ((reconcile settings desired (some outcome.snapshot)).run Registry.remote none
        first.state).mutations = [] := by
  obtain ⟨outcome, result, created, _, sync⟩ := @created_in_sync_iff
    { Settings.of "123456789012" "us-west-2" with presetScan := true }
    { spec := { name := "app", scanning := some ⟨some false⟩, policy := some "[]" } }
    { stored := [{ name := "base" }] } (by decide) ⟨fun _ => rfl, fun _ => rfl⟩ rfl (by decide)
  exact ⟨outcome, result, created, (sync.mpr ⟨fun unset => (by cases unset), fun _ => rfl⟩).1⟩

end Registrar
