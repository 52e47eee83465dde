import Registrar.Proofs.Advance

/- A pass settles the repository for good: what it leaves is what is desired, and a further pass finds
   nothing to change. -/
namespace Registrar

/-- What is stored is what is desired, unset attributes counting as their presets. How the
    repository is encrypted is not part of it, since no request changes that. -/
structure Settled (settings : Settings) (desired : Snapshot) (s : Stored) : Prop where
  scanning : s.scanOnPush = desired.spec.scansOnPush settings
  mutability : s.mutability = desired.spec.effectiveMutability settings
  lifecyclePolicy : samePolicy s.lifecyclePolicy desired.spec.lifecyclePolicy = true
  policy : samePolicy s.policy desired.spec.policy = true
  tags : sameTags s.tags desired.spec.tags = true

theorem settled_iff {settings : Settings} {desired : Snapshot} {s : Stored} :
    Settled settings desired s ↔ s.due settings desired = [] := by
  rw [due_eq_nil_iff]
  constructor
  · rintro ⟨scanning, mutability, lifecyclePolicy, policy, tags⟩
    simp [Field.pushed, Stored.agreesAt, scanning, mutability, lifecyclePolicy, policy, tags]
  · intro agrees
    obtain ⟨scanning, mutability, lifecyclePolicy, policy, tags⟩ :
        _ ∧ _ ∧ _ ∧ _ ∧ _ := by simpa [Field.pushed, Stored.agreesAt] using agrees
    exact ⟨scanning, mutability, lifecyclePolicy, policy, tags⟩

section
variable {settings : Settings} {desired latest : Snapshot} {r : Registry} {s : Stored}

theorem settled_afterAll : Settled settings desired (s.afterAll (s.due settings desired)) :=
  settled_iff.mpr (due_after (List.append_nil _).symm)

theorem unblocked_of_isTerminal (fine : latest.isTerminal = false) :
    retryBlocked settings desired latest = false := by
  rw [retryBlocked, fine, Bool.false_and]

theorem isTerminal_of_blocked (blocked : retryBlocked settings desired latest = true) :
    latest.isTerminal = true := by
  rw [retryBlocked, Bool.and_eq_true] at blocked
  exact blocked.1

theorem convergedFrom_isTerminal (observed : Snapshot) :
    (desired.convergedFrom observed).snapshot.isTerminal = false := rfl

theorem leftAlone_state (observed : Snapshot) :
    observed.leftAlone.state = if observed.isTerminal then .terminal else .inSync := by
  rw [Snapshot.leftAlone]
  split <;> rfl

theorem leftAlone_isTerminal (observed : Snapshot) :
    observed.leftAlone.snapshot.isTerminal = observed.isTerminal := by
  rw [Snapshot.leftAlone]
  split <;> rfl

theorem reconcile_settled (calm : r.Calm) (foreign : ∀ c ∈ r.strays, c.name ≠ some desired.name)
    (held : r.held? desired.name = some s) (named : desired.name ≠ "")
    (settled : Settled settings desired s) (fine : latest.isTerminal = false) :
    let t := (reconcile settings desired (some latest)).run Registry.remote none r
    t.mutations = [] ∧ ∃ outcome, t.result = .ok outcome ∧ outcome.state = .inSync := by
  have nothing := settled_iff.mp settled
  obtain ⟨_, asked, result⟩ :=
    reconcile_calm calm foreign held named (@unblocked_of_isTerminal settings desired latest fine)
  rw [if_pos nothing] at result
  refine ⟨asked.trans nothing, _, result, (leftAlone_state _).trans ?_⟩
  exact if_neg (Bool.eq_false_iff.mp fine)

theorem run_blocked {remote : Remote σ} {limit : Option Nat} {u : σ} (named : desired.name ≠ "")
    (blocked : retryBlocked settings desired latest = true) :
    (reconcile settings desired (some latest)).run remote limit u =
      ⟨.ok { snapshot := latest, state := .terminal }, [], [.blocked desired.name], u⟩ := by
  simp only [reconcile, if_neg named, if_pos blocked]
  rfl

theorem reconcile_blocked {remote : Remote σ} {limit : Option Nat} {u : σ}
    (named : desired.name ≠ "") (blocked : retryBlocked settings desired latest = true) :
    ((reconcile settings desired (some latest)).run remote limit u).result =
      .ok { snapshot := latest, state := .terminal } := by
  rw [run_blocked named blocked]

/-- A pass that finds a repository converged or in sync leaves it as desired, encrypted as it was,
    and a further pass from its outcome finds all in sync and changes nothing. Otherwise a terminal
    failure stands. -/
theorem settling_pass_is_final (named : desired.name ≠ "") (calm : r.Calm)
    (foreign : ∀ c ∈ r.strays, c.name ≠ some desired.name)
    (held : r.held? desired.name = some s) :
    let first := (reconcile settings desired (some latest)).run Registry.remote none r
    ∃ outcome, first.result = .ok outcome ∧
      (outcome.state = .converged ∨ outcome.state = .inSync ∨
        outcome.state = .terminal ∧ latest.isTerminal = true) ∧
      (outcome.state = .converged ∨ outcome.state = .inSync →
        (∃ after, first.state.held? desired.name = some after ∧ Settled settings desired after ∧
          after.encryption = s.encryption) ∧
        let second := (reconcile settings desired (some outcome.snapshot)).run Registry.remote none
          first.state
        second.mutations = [] ∧ ∃ again, second.result = .ok again ∧ again.state = .inSync) := by
  intro first
  by_cases blocked : retryBlocked settings desired latest = true
  · refine ⟨_, reconcile_blocked named blocked, ?_, ?_⟩
    · exact .inr (.inr ⟨rfl, isTerminal_of_blocked blocked⟩)
    · rintro (⟨⟨⟩⟩ | ⟨⟨⟩⟩)
  obtain ⟨left, _, result⟩ := reconcile_calm calm foreign held named (Bool.eq_false_iff.mpr blocked)
  have name := Registry.held_name held
  have after : first.state.held? desired.name =
      some (s.afterAll (s.due settings desired)) := by
    rw [left, Registry.held_put, Stored.afterAll_name, if_pos name]
  -- The outcome's snapshot, whichever it is, carries no terminal failure into the next pass.
  have final {outcome : Outcome} (fine : outcome.snapshot.isTerminal = false) :
      let second := (reconcile settings desired (some outcome.snapshot)).run Registry.remote none
        first.state
      second.mutations = [] ∧ ∃ again, second.result = .ok again ∧ again.state = .inSync := by
    have calm' : first.state.Calm := left ▸ ⟨calm.failing, calm.script⟩
    have foreign' : ∀ c ∈ first.state.strays, c.name ≠ some desired.name := left ▸ foreign
    exact reconcile_settled calm' foreign' after named settled_afterAll fine
  have encrypted := s.afterAll_encryption (s.due settings desired)
  by_cases nothing : s.due settings desired = []
  · rw [if_pos nothing] at result
    have state := leftAlone_state (s.seen settings (desired.sought latest))
    refine ⟨_, result, ?_⟩
    by_cases terminal : (s.seen settings (desired.sought latest)).isTerminal = true
    · rw [if_pos terminal] at state
      refine ⟨.inr (.inr ⟨state, terminal⟩), fun h => ?_⟩
      rw [state] at h
      rcases h with ⟨⟨⟩⟩ | ⟨⟨⟩⟩
    · rw [if_neg terminal] at state
      have fine := (leftAlone_isTerminal _).trans (Bool.eq_false_iff.mpr terminal)
      exact ⟨.inr (.inl state), fun _ => ⟨⟨_, after, settled_afterAll, encrypted⟩, final fine⟩⟩
  · rw [if_neg nothing] at result
    exact ⟨_, result, .inl rfl, fun _ =>
      ⟨⟨_, after, settled_afterAll, encrypted⟩, final (convergedFrom_isTerminal _)⟩⟩

end

def drifted : Registry where
  stored := [{ name := "base" },
    { name := "app", scanOnPush := true, policy := some "\x7b\x7d"
      tags := [⟨"team", some "a"⟩, ⟨"old", none⟩] }]

def wanted : Snapshot where
  spec := { name := "app", mutability := some .immutable, lifecyclePolicy := some "[]",
            tags := [⟨"team", some "b"⟩] }

theorem drifted_repository_settles :
    let settings := Settings.of "123456789012" "us-west-2"
    let first := (reconcile settings wanted (some (.named "app"))).run Registry.remote none drifted
    ∃ outcome, first.result = .ok outcome ∧ outcome.state = .converged ∧
      (∃ after, first.state.held? "app" = some after ∧ Settled settings wanted after) ∧
      ((reconcile settings wanted (some outcome.snapshot)).run Registry.remote none
        first.state).mutations = [] := by
  obtain ⟨outcome, result, _, final⟩ := @settling_pass_is_final
    (.of "123456789012" "us-west-2") wanted (.named "app") drifted _ (by decide)
    ⟨fun _ => rfl, fun _ => rfl⟩ (by decide) rfl
  have state : ((reconcile (.of "123456789012" "us-west-2") wanted (some (.named "app"))).run
      Registry.remote none drifted).result.toOption.map Outcome.state = some .converged := by
    decide
  rw [result] at state
  have state : outcome.state = .converged := Option.some.inj state
  obtain ⟨⟨after, held, settled, _⟩, kept, _⟩ := final (.inl state)
  exact ⟨outcome, result, state, ⟨after, held, settled⟩, kept⟩

end Registrar
