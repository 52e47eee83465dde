import Registrar.Proofs.Mirror
import Registrar.Proofs.Settling

/- What is recorded of a repository that a pass has converged. Its status is what the registry says of
   the repository. What was desired stands for the rest; a fresh read finds that to be so as far as
   requests can change it. How the repository is encrypted is recorded as desired too, though no
   request was made for it. -/
namespace Registrar

section
variable {settings : Settings} {base desired : Snapshot} {latest : Option Snapshot} {r : Registry}
  {s : Stored}

theorem observe_calm (calm : r.Calm) (foreign : ∀ c ∈ r.strays, c.name ≠ some base.name)
    (held : r.held? base.name = some s) (named : base.name ≠ "") :
    ((observe settings base).run Registry.remote none r).result = .ok (s.seen settings base) := by
  have name := (Registry.held_name held).symm
  have holds : Holds r s := calm.holds (name ▸ held) (name ▸ foreign)
  have named' : s.name ≠ "" := name ▸ named
  have course := course_of_attempt Registry.remote none (observe settings base) r
  have replays := course_replays course
  -- The read is one of what is desired as it stands, where it was seen to be.
  have sought : base.sought base = base := rfl
  rcases course_observe course with ⟨stop, _, ended⟩ | ⟨answer, asked, _, absent⟩ |
    ⟨candidates, found, _, _, ys, asked, lookup, rest⟩
  · obtain ⟨_, described, _⟩ := @describe_held base r s holds named' name settings
    obtain ⟨_, stopped | disturbed⟩ := failFast_reads ended holds
      (by simpa using ⟨_, described, rfl⟩) replays
    · cases stopped
    · exact absurd disturbed calm.undisturbed
  · rw [asked] at replays
    have missing : Absent settings (base.sought base) answer := by
      rcases absent with ⟨e, rfl, missing⟩ | ⟨candidates, rfl, unfound⟩
      · exact .refused missing
      · exact .others unfound
    exact absurd replays (not_absent holds name named' missing)
  · rw [asked] at replays
    have lookup : Lookup.among (base.sought base) candidates settings = .found found := lookup
    rcases course_observeRest rest with ⟨stop, _, ended⟩ | ⟨placeless, _, _⟩ |
      ⟨arn, policy, lifecycle, tags, located, rfl, read, result⟩
    · obtain ⟨rfl, reading⟩ := found_held holds name named' lookup replays
      obtain ⟨_, stopped | disturbed⟩ :=
        failFast_reads ended holds (readings_answered holds named') reading
      · cases stopped
      · exact absurd disturbed calm.undisturbed
    · obtain ⟨rfl, _⟩ := found_held holds name named' lookup replays
      cases placeless
    · obtain ⟨observed, _⟩ :=
        replays_observed holds name named' lookup located read replays
      rw [result, observed, sought]

theorem madeOutcome_unconverged (settings : Settings) (r : Snapshot) (stop : Option Failure) :
    (r.madeOutcome settings stop).state ≠ .converged := by
  cases stop <;> exact nofun

theorem converged_calm (calm : r.Calm) (foreign : ∀ c ∈ r.strays, c.name ≠ some desired.name)
    (held : r.held? desired.name = some s) {outcome : Outcome}
    (result : ((reconcile settings desired latest).run Registry.remote none r).result = .ok outcome)
    (converged : outcome.state = .converged) :
    desired.name ≠ "" ∧
      ((reconcile settings desired latest).run Registry.remote none r).state =
        r.put (s.afterAll (s.due settings desired)) ∧
      ∃ base, outcome = desired.convergedFrom (s.seen settings (desired.sought base)) := by
  have named : desired.name ≠ "" := by
    intro nameless
    simp only [reconcile, if_pos nameless] at result
    cases result
  refine ⟨named, ?_⟩
  cases latest with
  | none =>
    obtain ⟨xs, u, course⟩ : ∃ xs u, AttemptCourse Registry.remote none
        (reconcile settings desired none) 0 r xs (.ok outcome) u :=
      ⟨_, _, result ▸ course_of_attempt Registry.remote none (reconcile settings desired none) r⟩
    cases reconciling_of_course course with
    | created creation =>
      cases creation with
      | made followed => exact absurd converged (madeOutcome_unconverged _ _ _)
  | some base =>
    by_cases blocked : retryBlocked settings desired base = true
    · rw [reconcile_blocked named blocked] at result
      cases result
      cases converged
    · obtain ⟨left, _, ended⟩ :=
        reconcile_calm calm foreign held named (Bool.eq_false_iff.mpr blocked)
      rw [ended] at result
      cases result
      refine ⟨left, base, ?_⟩
      split at converged
      · rw [leftAlone_state] at converged
        split at converged <;> cases converged
      · rename_i pending
        rw [if_neg pending]

theorem read_differs (shows : base.Shows s)
    (agrees : ∀ f ∈ Field.pushed, s.agreesAt settings desired f = true) :
    (ChangeSet.between settings desired base).fields =
      if s.agreesAt settings desired .encryption then [] else [.encryption] := by
  have differs : ∀ f ∈ Field.compared, (Difference.at settings desired.spec base.spec f).isSome =
      (decide (f = .encryption) && !s.agreesAt settings desired .encryption) := by
    intro f _
    rw [← differsAt_between, differsAt_shown shows]
    by_cases encryption : f = .encryption
    · subst encryption
      rfl
    · have pushed : f ∈ Field.pushed := by
        cases f <;> first | decide | exact absurd rfl encryption
      rw [agrees f pushed, decide_eq_false encryption]
      rfl
  rw [ChangeSet.fields_between, List.filter_congr differs]
  cases s.agreesAt settings desired .encryption <;> rfl

/-- A pass that ends as converged records of the repository what the registry reports of it. A fresh
    read, wherever it starts from, finds everything else to be as recorded exactly if the repository is
    encrypted as desired, and finds nothing else to differ if it is not. -/
theorem converged_record_is_true_iff (calm : r.Calm)
    (foreign : ∀ c ∈ r.strays, c.name ≠ some desired.name) (held : r.held? desired.name = some s)
    {outcome : Outcome}
    (result : ((reconcile settings desired latest).run Registry.remote none r).result = .ok outcome)
    (converged : outcome.state = .converged) :
    let left := ((reconcile settings desired latest).run Registry.remote none r).state
    let recorded := outcome.snapshot
    ∃ after, left.held? desired.name = some after ∧
      recorded.status.createdAt = after.describe.createdAt ∧
      recorded.status.arn = after.describe.arn ∧
      recorded.status.registryId = after.describe.registryId ∧
      recorded.status.uri = after.describe.uri ∧
      ∀ base : Snapshot, base.name = desired.name →
        ∃ read, ((observe settings base).run Registry.remote none left).result = .ok read ∧
          (ChangeSet.between settings read recorded).fields =
            (if s.agreesAt settings desired .encryption then [] else [.encryption]) ∧
          ((ChangeSet.between settings read recorded).isEmpty = true ↔
            s.agreesAt settings desired .encryption = true) := by
  intro left recorded
  obtain ⟨named, moved, sought, rfl⟩ := converged_calm calm foreign held result converged
  have name := Registry.held_name held
  obtain ⟨after, made⟩ : ∃ after, after = s.afterAll (s.due settings desired) := ⟨_, rfl⟩
  have same : after.name = s.name := by rw [made, Stored.afterAll_name]
  have moved : left = r.put after := by rw [made]; exact moved
  have held' : left.held? desired.name = some after := by
    rw [moved, Registry.held_put, if_pos (same.trans name)]
  have agrees : ∀ f ∈ Field.pushed, after.agreesAt settings desired f = true := by
    rw [← due_eq_nil_iff, made]
    exact due_after (List.append_nil _).symm
  have encrypted : after.agreesAt settings desired .encryption =
      s.agreesAt settings desired .encryption := by
    rw [Stored.agreesAt, Stored.agreesAt, made, Stored.afterAll_name, Stored.afterAll_encryption]
  have arn : recorded.status.arn = after.describe.arn :=
    congrArg (fun n => some (Registry.arnOf n)) same.symm
  have uri : recorded.status.uri = after.describe.uri :=
    congrArg (fun n => some (Registry.uriOf n)) same.symm
  refine ⟨after, held', rfl, arn, rfl, uri, fun base called => ?_⟩
  have calm' : left.Calm := moved ▸ ⟨calm.failing, calm.script⟩
  have foreign' : ∀ c ∈ left.strays, c.name ≠ some base.name := called ▸ moved ▸ foreign
  have read := @observe_calm settings base left after calm' foreign' (called ▸ held') (called ▸ named)
  have differs : (ChangeSet.between settings (after.seen settings base) recorded).fields =
      if s.agreesAt settings desired .encryption then [] else [.encryption] := by
    rw [ChangeSet.fields_between_swap, ← encrypted]
    exact read_differs (seen_shows settings base after) agrees
  refine ⟨_, read, differs, ?_⟩
  rw [ChangeSet.isEmpty, List.isEmpty_iff, ← List.map_eq_nil_iff (f := Change.field)]
  change (ChangeSet.between settings (after.seen settings base) recorded).fields = [] ↔ _
  rw [differs]
  cases s.agreesAt settings desired .encryption <;> simp

end

theorem converged_repository_is_recorded :
    let settings := Settings.of "123456789012" "us-west-2"
    let t := (reconcile settings wanted (some (.named "app"))).run Registry.remote none drifted
    ∃ outcome, t.result = .ok outcome ∧ outcome.state = .converged ∧
      outcome.snapshot.status.arn = some (Registry.arnOf "app") ∧
      ∃ read, ((observe settings (.named "app")).run Registry.remote none t.state).result = .ok read ∧
        (ChangeSet.between settings read outcome.snapshot).isEmpty = true := by
  intro settings t
  have state : t.result.toOption.map Outcome.state = some .converged := by decide
  cases result : t.result with
  | error f =>
    rw [result] at state
    cases state
  | ok outcome =>
    rw [result] at state
    have converged : outcome.state = .converged := Option.some.inj state
    obtain ⟨after, held, _, arn, _, _, reads⟩ :=
      converged_record_is_true_iff ⟨fun _ => rfl, fun _ => rfl⟩ (by decide) rfl result converged
    obtain ⟨read, reads, _, same⟩ := reads (.named "app") rfl
    have name : after.name = "app" := Registry.held_name held
    refine ⟨outcome, rfl, converged, ?_, read, reads, same.mpr (by decide)⟩
    rw [arn, Stored.describe, name]

/-- The policy is set, the encryption is not, and both are recorded. -/
theorem desired_encryption_is_recorded :
    let settings := Settings.of "123456789012" "us-west-2"
    let desired : Snapshot :=
      { spec := { name := "app", encryption := some ⟨some "KMS", none⟩, policy := some "[]" } }
    let t := (reconcile settings desired (some (.named "app"))).run Registry.remote none
      { stored := [{ name := "app" }] }
    ∃ outcome, t.result = .ok outcome ∧ outcome.state = .converged ∧
      outcome.snapshot.spec.encryption = some ⟨some "KMS", none⟩ ∧
      ∃ read, ((observe settings (.named "app")).run Registry.remote none t.state).result = .ok read ∧
        read.spec.encryption = some ⟨some "AES256", none⟩ ∧
        (ChangeSet.between settings read outcome.snapshot).fields = [.encryption] :=
  ⟨_, rfl, rfl, rfl, _, rfl, rfl, rfl⟩

end Registrar
