import Registrar.Proofs.Ending
import Registrar.Proofs.Settling

/- What a pass goes by of earlier observations: the conditions, the owner and the registry. All else
   that is remembered of a repository, and the whole spec it was seen with, is read anew or not looked
   at. It holds of the passes as programs, thus against every remote and wherever they are cancelled. -/
namespace Registrar

structure Status.SameGuide (s t : Status) : Prop extends s.SameConditions t where
  ownerAccount : s.ownerAccount = t.ownerAccount
  region : s.region = t.region
  registryId : s.registryId = t.registryId

def Spec.SameSettings (s t : Spec) : Prop :=
  { s with policy := none, lifecyclePolicy := none, tags := [] } =
    { t with policy := none, lifecyclePolicy := none, tags := [] }

/-- The bases differ in nothing but what reading a repository back finds out. -/
structure Snapshot.SameBase (a b : Snapshot) : Prop where
  spec : a.spec.SameSettings b.spec
  status : a.status.SameGuide b.status

section
variable {settings : Settings} {a b : Snapshot}

namespace Spec.SameSettings

variable {s t : Spec}

theorem name (same : s.SameSettings t) : s.name = t.name := (congrArg Spec.name same :)

theorem registryId (same : s.SameSettings t) : s.registryId = t.registryId :=
  (congrArg Spec.registryId same :)

theorem described (same : s.SameSettings t) (c : Candidate) :
    (s.describedBy c).SameSettings (t.describedBy c) :=
  (congrArg (fun u : Spec => u.describedBy c) same :)

theorem filledIn (same : s.SameSettings t) (status : Status) (policy lifecycle : Option String)
    (tags : List Tag) :
    Snapshot.filledIn ⟨s, status⟩ policy lifecycle tags =
      Snapshot.filledIn ⟨t, status⟩ policy lifecycle tags :=
  (congrArg (fun u : Spec => Snapshot.filledIn ⟨u, status⟩ policy lifecycle tags) same :)

end Spec.SameSettings

theorem Status.SameGuide.described {s t : Status} (same : s.SameGuide t) (c : Candidate)
    (settings : Settings) :
    (s.describedBy c).withOwner settings = (t.describedBy c).withOwner settings := by
  obtain ⟨⟨synced, terminal, terminalSpec⟩, ownerAccount, region, _⟩ := same
  simp only [describedBy, withOwner, synced, terminal, terminalSpec, ownerAccount, region]

theorem observeRest_same {s t : Spec} (same : s.SameSettings t) (status : Status) :
    observeRest ⟨s, status⟩ = observeRest ⟨t, status⟩ := by
  have target : Snapshot.target ⟨s, status⟩ = Snapshot.target ⟨t, status⟩ := by
    rw [Snapshot.target, Snapshot.target, Snapshot.registryId, Snapshot.registryId, same.registryId,
      Snapshot.name, Snapshot.name, same.name]
  have policy : observePolicy ⟨s, status⟩ = observePolicy ⟨t, status⟩ := by
    rw [observePolicy, observePolicy, target]
    -- What is made of the answer mentions the snapshot, so that the answers are told apart first.
    exact bind_congr fun answer => by cases answer <;> rfl
  have lifecycle : observeLifecycle ⟨s, status⟩ = observeLifecycle ⟨t, status⟩ := by
    rw [observeLifecycle, observeLifecycle, target]
    exact bind_congr fun answer => by cases answer <;> rfl
  rw [observeRest, observeRest, policy, lifecycle]
  refine bind_congr fun policy => bind_congr fun lifecycle => ?_
  simp only [Snapshot.arn]
  cases status.arn with
  | none => rfl
  | some arn =>
    refine bind_congr fun tags => ?_
    have filled := same.filledIn status policy lifecycle tags
    exact congrArg (fun r => do Attempt.tell (.observed r.name tags.length); pure r) filled

theorem among_same (same : a.SameBase b) (candidates : List Candidate) (settings : Settings) :
    (∃ s t status, s.SameSettings t ∧
      Lookup.among a candidates settings = .found ⟨s, status⟩ ∧
      Lookup.among b candidates settings = .found ⟨t, status⟩) ∨
    Lookup.among a candidates settings = Lookup.among b candidates settings := by
  have meant : a.isMeant = b.isMeant := by
    funext c
    rw [Snapshot.isMeant, Snapshot.isMeant, Snapshot.name, Snapshot.name, same.spec.name]
  rw [Lookup.among, Lookup.among, meant]
  split
  · exact .inr rfl
  · cases picked : candidates.find? b.isMeant with
    | none => exact .inr rfl
    | some c =>
      refine .inl ⟨_, _, _, same.spec.described c, rfl, ?_⟩
      rw [same.status.described c settings]
      rfl

theorem observe_same (same : a.SameBase b) : observe settings a = observe settings b := by
  have name : a.name = b.name := same.spec.name
  have registryId : a.registryId = b.registryId := by
    rw [Snapshot.registryId, Snapshot.registryId, same.spec.registryId, same.status.registryId]
  rw [observe, observe, name, registryId]
  refine bind_congr fun answer => ?_
  cases answer with
  | error e => rfl
  | ok candidates =>
    rcases among_same same candidates settings with ⟨s, t, status, spec, first, second⟩ | alike
    · simp only [first, second]
      exact observeRest_same spec status
    · simp only [alike]

theorem retryBlocked_same (same : a.status.SameConditions b.status) (settings : Settings)
    (desired : Snapshot) : retryBlocked settings desired a = retryBlocked settings desired b := by
  rw [retryBlocked, retryBlocked, Snapshot.isTerminal, Snapshot.isTerminal, same.terminal,
    same.terminalSpec]

theorem reconcile_unblocked {desired latest : Snapshot} (named : desired.name ≠ "")
    (unblocked : retryBlocked settings desired latest = false) :
    reconcile settings desired (some latest) =
      Attempt.outcome (observe settings (desired.sought latest)) >>= afterReading settings desired := by
  rw [reconcile, if_neg named, if_neg (Bool.eq_false_iff.mp unblocked)]
  rfl

theorem reconcile_same {desired : Snapshot} (same : a.status.SameGuide b.status)
    (unblocked : desired.name ≠ "" → retryBlocked settings desired b = false) :
    reconcile settings desired (some a) = reconcile settings desired (some b) := by
  by_cases named : desired.name = ""
  · rw [reconcile, reconcile, if_pos named, if_pos named]
  · have read : observe settings (desired.sought a) = observe settings (desired.sought b) :=
      observe_same ⟨rfl, same⟩
    have unblocked := unblocked named
    have unblocked' := (retryBlocked_same same.toSameConditions settings desired).trans unblocked
    rw [reconcile_unblocked named unblocked, reconcile_unblocked named unblocked', read]

/-- Passes from two latest snapshots with the same conditions, owner and registry ask the same, tell
    the same, leave the remote alike and end alike, but that each gives its own snapshot back if a
    failure for good stands. The whole spec and what else is remembered of the repository have no
    part in it. Reading back goes by the settings in the spec of its base besides, and by none of the
    policies and tags there. -/
theorem stale_observations_do_not_steer (remote : Remote σ) (limit : Option Nat)
    (settings : Settings) (s : σ) :
    (∀ desired a b : Snapshot, a.status.SameGuide b.status →
      let first := (reconcile settings desired (some a)).run remote limit s
      let second := (reconcile settings desired (some b)).run remote limit s
      first.calls = second.calls ∧ first.events = second.events ∧ first.state = second.state ∧
        (first.result = second.result ∨
          retryBlocked settings desired a = true ∧ retryBlocked settings desired b = true ∧
          first.calls = [] ∧ first.result = .ok { snapshot := a, state := .terminal } ∧
          second.result = .ok { snapshot := b, state := .terminal })) ∧
    ∀ a b : Snapshot, a.SameBase b →
      (observe settings a).run remote limit s = (observe settings b).run remote limit s := by
  constructor
  · intro desired a b same first second
    by_cases blocked : desired.name ≠ "" ∧ retryBlocked settings desired b = true
    · obtain ⟨named, blocked⟩ := blocked
      have blocked' := (retryBlocked_same same.toSameConditions settings desired).trans blocked
      have first_eq : first = _ := run_blocked named blocked'
      have second_eq : second = _ := run_blocked named blocked
      rw [first_eq, second_eq]
      exact ⟨rfl, rfl, rfl, .inr ⟨blocked', blocked, rfl, rfl, rfl⟩⟩
    · have unblocked (named : desired.name ≠ "") : retryBlocked settings desired b = false :=
        Bool.eq_false_iff.mpr fun standing => blocked ⟨named, standing⟩
      have alike : first = second :=
        congrArg (Attempt.run remote limit · s) (reconcile_same same unblocked)
      rw [alike]
      exact ⟨rfl, rfl, rfl, .inl rfl⟩
  · intro a b same
    rw [observe_same same]

end

theorem mistaken_memory_does_not_steer :
    let settings := Settings.of "123456789012" "us-west-2"
    let memory : Status := { arn := some (Registry.arnOf "base"), uri := some "base.example" }
    let mistaken : Snapshot := ⟨{ name := "base", policy := some "[]" }, memory⟩
    let pass (latest : Snapshot) :=
      (reconcile settings wanted (some latest)).run Registry.remote none drifted
    let read (base : Snapshot) := (observe settings base).run Registry.remote none drifted
    (pass mistaken).calls = (pass (.named "app")).calls ∧
      (pass mistaken).result = (pass (.named "app")).result ∧
      (pass (.named "app")).result.toOption.map Outcome.state = some .converged ∧
      read ⟨{ name := "app", policy := some "[]", tags := [⟨"old", none⟩] }, memory⟩ =
        read (.named "app") ∧
      (read (.named "app")).calls.length = 4 := by
  intro settings memory mistaken pass read
  obtain ⟨passes, reads⟩ :=
    stale_observations_do_not_steer Registry.remote none settings drifted
  have guide : memory.SameGuide (Snapshot.named "app").status := ⟨⟨rfl, rfl, rfl⟩, rfl, rfl, rfl⟩
  obtain ⟨calls, _, _, ends⟩ := passes wanted mistaken (.named "app") guide
  refine ⟨calls, ends.resolve_right ?_, by decide +kernel, reads _ _ ⟨rfl, guide⟩, by decide +kernel⟩
  rintro ⟨blocked, _⟩
  cases blocked

end Registrar
