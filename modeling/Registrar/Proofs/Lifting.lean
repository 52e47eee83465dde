import Registrar.Proofs.Blocking
import Registrar.Proofs.Ending

/- What ends a failure for good. A pass asks the remote again if something else is desired in one of
   the compared fields, and only then. The record of the failure goes once a pass asks for a change;
   a pass that finds nothing to change keeps it, whatever is desired by now. -/
namespace Registrar

/-- Whether two specs ask for the same at a field, unset attributes counting as their presets. What
    registry they name belongs to no field. -/
def Spec.AlikeAt (settings : Settings) (a b : Spec) : Field → Prop
  | .scanning => a.scansOnPush settings = b.scansOnPush settings
  | .mutability => a.effectiveMutability settings = b.effectiveMutability settings
  | .encryption =>
    a.encryptionKind = b.encryptionKind ∧ sameText a.encryptionKey b.encryptionKey = true
  | .lifecyclePolicy => samePolicy a.lifecyclePolicy b.lifecyclePolicy = true
  | .policy => samePolicy a.policy b.policy = true
  | .tags => sameTags a.tags b.tags = true

instance (settings : Settings) (a b : Spec) : (f : Field) → Decidable (a.AlikeAt settings b f)
  | .scanning => inferInstanceAs (Decidable (_ = _))
  | .mutability => inferInstanceAs (Decidable (_ = _))
  | .encryption => inferInstanceAs (Decidable (_ ∧ _))
  | .lifecyclePolicy => inferInstanceAs (Decidable (_ = _))
  | .policy => inferInstanceAs (Decidable (_ = _))
  | .tags => inferInstanceAs (Decidable (_ = _))

def Snapshot.rejected (d : Snapshot) : Snapshot :=
  (d.updated? (some (.remote (.service "LimitExceededException" "too many"))) strict).getD d

theorem ChangeSet.isEmpty_iff (s : ChangeSet) : s.isEmpty = true ↔ ∀ f, s.differsAt f = false := by
  obtain ⟨changes⟩ := s
  cases changes with
  | nil => simp [isEmpty, differsAt]
  | cons c rest =>
    constructor
    · intro empty
      cases empty
    · intro same
      simpa [differsAt] using same c.field

section
variable {settings : Settings} {desired latest : Snapshot} {failed : Spec}

theorem differsAt_iff (f : Field) : (ChangeSet.between settings desired latest).differsAt f = true ↔
    ¬ latest.spec.AlikeAt settings desired.spec f := by
  rw [differsAt_between]
  cases f <;> simp [Difference.at, Difference.valueAt, Difference.scanning, Difference.mutability,
    Difference.encryption, Difference.policy, Difference.tags, Spec.AlikeAt]

theorem between_isEmpty_iff : (ChangeSet.between settings desired latest).isEmpty = false ↔
    ∃ f, ¬ latest.spec.AlikeAt settings desired.spec f := by
  rw [← Bool.not_eq_true, ChangeSet.isEmpty_iff, not_forall]
  refine exists_congr fun f => ?_
  rw [Bool.not_eq_false, differsAt_iff]

theorem retryBlocked_recorded (terminal : latest.isTerminal = true)
    (recorded : latest.status.terminalSpec = some failed) :
    retryBlocked settings desired latest =
      (ChangeSet.between settings desired { spec := failed }).isEmpty := by
  have record : Snapshot.Failed { spec := failed } latest := ⟨terminal, recorded⟩
  rw [retryBlocked_failed (p := ⟨desired, none⟩) record, Session.Turn.repeats]

/-- After a failure for good a pass asks the remote again exactly if a field is desired that is not as
    it was when it failed. It then describes the repository; else it gives back what it was given. -/
theorem retry_resumes_iff (remote : Remote σ) (named : desired.name ≠ "")
    (terminal : latest.isTerminal = true) (recorded : latest.status.terminalSpec = some failed)
    (s : σ) :
    let t := (reconcile settings desired (some latest)).run remote none s
    (t.calls ≠ [] ↔ ∃ f, ¬ failed.AlikeAt settings desired.spec f) ∧
      (t.calls ≠ [] → ∃ registryId rest, t.calls = .describe registryId [desired.name] :: rest) ∧
      (t.calls = [] → t.result = .ok { snapshot := latest, state := .terminal } ∧ t.state = s) := by
  intro t
  have other := @between_isEmpty_iff settings desired { spec := failed }
  rw [← retryBlocked_recorded terminal recorded] at other
  rw [← other]
  cases blocked : retryBlocked settings desired latest with
  | true =>
    have quiet : t = ⟨.ok { snapshot := latest, state := .terminal }, [], [.blocked desired.name], s⟩ :=
      run_blocked named blocked
    rw [quiet]
    simp
  | false =>
    obtain ⟨registryId, rest, asked⟩ := calls_unblocked remote named blocked s
    have asked : t.calls = .describe registryId [desired.name] :: rest := asked
    simp [asked]

theorem other_wish_is_retried :
    let t := (reconcile strict (.named "app") (some wanted.rejected)).run Registry.remote none drifted
    wanted.rejected.isTerminal = true ∧ wanted.rejected.status.terminalSpec = some wanted.spec ∧
      ∃ registryId rest, t.calls = .describe registryId ["app"] :: rest := by
  obtain ⟨resumes, describes, _⟩ := @retry_resumes_iff strict (.named "app") wanted.rejected
    wanted.spec _ Registry.remote (by decide) rfl rfl drifted
  exact ⟨rfl, rfl, describes (resumes.mpr ⟨.mutability, by decide⟩)⟩

theorem corrected_registry_stays_blocked :
    let misplaced : Snapshot :=
      { spec := { name := "app", registryId := some "111111111111", policy := some "[]" } }
    let placed : Snapshot :=
      { spec := { name := "app", registryId := some Registry.account, policy := some "[]" } }
    let t := (reconcile strict placed (some misplaced.rejected)).run Registry.remote none
      { stored := [{ name := "app" }] }
    misplaced.rejected.isTerminal = true ∧
      misplaced.rejected.status.terminalSpec = some misplaced.spec ∧
      placed.spec.registryId ≠ misplaced.spec.registryId ∧
      t.calls = [] ∧ t.result = .ok { snapshot := misplaced.rejected, state := .terminal } := by
  decide +kernel

/-- A pass that something else is desired of than when it failed for good, and that ends well, drops
    the record of the failure exactly if it asks for a change. Else it ends as failed for good again,
    with all conditions as they were. -/
theorem record_dropped_iff (remote : Remote σ) (limit : Option Nat)
    (terminal : latest.isTerminal = true) (recorded : latest.status.terminalSpec = some failed)
    (changed : (ChangeSet.between settings desired { spec := failed }).isEmpty = false)
    {outcome : Outcome} (s : σ)
    (ended : ((reconcile settings desired (some latest)).run remote limit s).result = .ok outcome) :
    let t := (reconcile settings desired (some latest)).run remote limit s
    (outcome.snapshot.isTerminal = false ∧ outcome.snapshot.status.terminalSpec = none ↔
        t.mutations ≠ []) ∧
      (t.mutations = [] → outcome.state = .terminal ∧
        outcome.snapshot.status.SameConditions latest.status) := by
  intro t
  have course := reconciling_of_course
    (course_of_attempt remote limit (reconcile settings desired (some latest)) s)
  rw [ended] at course
  rw [← mutations_exchanges remote limit (reconcile settings desired (some latest)) s]
  have ending := ending_of_reconciling course
  generalize Attempt.exchanges remote limit (reconcile settings desired (some latest)) s = xs at ending
  cases ending with
  | @created _ _ c stop made =>
    have asked : mutations xs ≠ [] :=
      List.ne_nil_of_mem (List.mem_filter.mpr ⟨List.mem_map_of_mem made, rfl⟩)
    obtain ⟨cleared, unrecorded⟩ := madeOutcome_cleared settings desired c stop
    refine ⟨iff_of_true ⟨?_, unrecorded⟩ asked, fun none => absurd none asked⟩
    rw [Snapshot.isTerminal, cleared]
    rfl
  | blocked failed =>
    rw [retryBlocked_recorded terminal recorded, changed] at failed
    cases failed
  | @current _ observed _ seen kept =>
    have still : observed.isTerminal = true := by
      rw [Snapshot.isTerminal, seen.terminal]
      exact terminal
    rw [Snapshot.leftAlone, if_pos still]
    refine ⟨iff_of_false ?_ (not_not.mpr kept), fun _ => ⟨rfl, seen⟩⟩
    rintro ⟨fine, _⟩
    cases still.symm.trans fine
  | pushed seen asked => exact ⟨iff_of_true ⟨rfl, rfl⟩ asked, fun none => absurd none asked⟩

end

theorem changed_wish_drops_record :
    let t := (reconcile strict wanted (some (Snapshot.rejected (.named "app")))).run Registry.remote
      none drifted
    ∃ outcome, t.result = .ok outcome ∧ outcome.snapshot.isTerminal = false ∧
      outcome.snapshot.status.terminalSpec = none := by
  refine ⟨_, rfl, ?_⟩
  obtain ⟨dropped, _⟩ := @record_dropped_iff strict wanted (Snapshot.rejected (.named "app"))
    (Snapshot.named "app").spec _ Registry.remote none rfl rfl (by decide +kernel) _ drifted rfl
  exact dropped.mpr (by decide)

/-- What failed is desired no more, and what is desired instead is there already. The repository stays
    failed for good. -/
theorem reverted_wish_stays_terminal :
    let t := (reconcile strict (.named "app") (some wanted.rejected)).run Registry.remote none
      { stored := [{ name := "app" }] }
    wanted.rejected.isTerminal = true ∧ wanted.rejected.status.terminalSpec = some wanted.spec ∧
      (ChangeSet.between strict (.named "app") { spec := wanted.spec }).isEmpty = false ∧
      ∃ outcome, t.result = .ok outcome ∧ outcome.state = .terminal ∧
        outcome.snapshot.isTerminal = true ∧
        outcome.snapshot.status.terminalSpec = some wanted.spec :=
  ⟨rfl, rfl, rfl, _, rfl, rfl, rfl, rfl⟩

end Registrar
