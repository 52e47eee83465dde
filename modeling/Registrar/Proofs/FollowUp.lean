import Registrar.Proofs.Cancellation

/- What comes after a creation that was granted. The pass does not fail any more, whatever becomes of
   the requests that set the policies, and its outcome says whether all of them were granted. -/
namespace Registrar

/-- The snapshot is what is desired, and says of the repository what the reply to its creation says,
    and nothing else but whose it is. No failure for good is left in it. -/
structure Snapshot.CreatedFrom (r desired : Snapshot) (reply : Candidate) : Prop where
  spec : r.spec = desired.spec
  createdAt : r.status.createdAt = reply.createdAt
  arn : r.status.arn = reply.arn
  registryId : r.status.registryId = reply.registryId
  uri : r.status.uri = reply.uri
  owner : r.status.ownerAccount.isSome = true
  region : r.status.region.isSome = true
  terminal : r.status.terminal = none
  terminalSpec : r.status.terminalSpec = none

theorem Exchange.granted_of_passed {x : Exchange} (through : x.passed = true)
    (strict : ∀ e, x.request.tolerates e = false) : x.granted = true := by
  obtain ⟨q, answer⟩ := x
  cases answer with
  | ok b => rfl
  | error e =>
    have tolerated : q.tolerates e = true := through
    cases (strict e).symm.trans tolerated

/-- Requests of which no refusal is tolerated come to their end exactly if all are made and granted. -/
theorem FailFast.finished_iff {limit : Option Nat} {qs : List Request} {xs : List Exchange}
    {stop : Option Failure} (run : FailFast limit qs xs stop)
    (strict : ∀ q ∈ qs, ∀ e, q.tolerates e = false) :
    stop = none ↔ xs.map Exchange.request = qs ∧ ∀ x ∈ xs, x.granted = true := by
  induction run with
  | finished => simp
  | cancelled q rest cut => simp
  | refused rest hard => simp [Exchange.granted]
  | passed through tail ih =>
    obtain ⟨first, others⟩ := List.forall_mem_cons.mp strict
    have granted := Exchange.granted_of_passed through first
    rw [ih others]
    simp [granted]

section
variable {settings : Settings} {desired : Snapshot} {limit : Option Nat} {xs : List Exchange}
  {res : Except Failure Outcome}

theorem mem_followUps {r : Snapshot} {q : Request} (member : q ∈ r.followUps) :
    (∃ text, q = .putLifecycle r.target text) ∨ ∃ text, q = .setPolicy r.target text := by
  rcases List.mem_append.mp member with member | member
  · obtain ⟨text, _, same⟩ := List.mem_map.mp member
    exact .inl ⟨text, same.symm⟩
  · obtain ⟨text, _, same⟩ := List.mem_map.mp member
    exact .inr ⟨text, same.symm⟩

theorem followUps_strict (r : Snapshot) : ∀ q ∈ r.followUps, ∀ e, q.tolerates e = false := by
  intro q member e
  rcases mem_followUps member with ⟨text, rfl⟩ | ⟨text, rfl⟩ <;> rfl

theorem createdFrom_madeOutcome (settings : Settings) (desired : Snapshot) (reply : Candidate)
    (stop : Option Failure) :
    ((desired.createdAs reply settings).madeOutcome settings stop).snapshot.CreatedFrom desired
      reply := by
  have owner : (desired.createdAs reply settings).status.ownerAccount.isSome = true := by
    simp [Snapshot.createdAs, Snapshot.withoutTerminal, Status.withOwner]
  have region : (desired.createdAs reply settings).status.region.isSome = true := by
    simp [Snapshot.createdAs, Snapshot.withoutTerminal, Status.withOwner]
  cases stop <;> exact ⟨rfl, rfl, rfl, rfl, rfl, owner, region, rfl, rfl⟩

theorem Creating.followed {c : Creation} {reply : Candidate}
    (creation : Creating limit settings desired xs res) (created : ⟨.create c, .ok reply⟩ ∈ xs) :
    ∃ after stop, xs = ⟨.create desired.spec.creation, .ok reply⟩ :: after ∧
      FailFast limit (desired.createdAs reply settings).followUps after stop ∧
      res = .ok ((desired.createdAs reply settings).madeOutcome settings stop) := by
  cases creation with
  | refused ended =>
    rcases ended.single_stopped with ⟨rfl, _⟩ | ⟨e, rfl⟩
    · cases created
    · cases List.mem_singleton.mp created
  | @made c' after stop followed =>
    rcases List.mem_cons.mp created with same | late
    · cases same
      exact ⟨after, stop, rfl, followed, rfl⟩
    · -- What follows a creation sets policies and creates nothing.
      rcases mem_followUps (followed.asked_mem late) with ⟨text, same⟩ | ⟨text, same⟩ <;> cases same

theorem Reconciling.followed {latest : Option Snapshot} {c : Creation} {reply : Candidate}
    (course : Reconciling limit settings desired latest xs res)
    (created : ⟨.create c, .ok reply⟩ ∈ xs) :
    ∃ before after stop, xs = before ++ ⟨.create desired.spec.creation, .ok reply⟩ :: after ∧
      FailFast limit (desired.createdAs reply settings).followUps after stop ∧
      res = .ok ((desired.createdAs reply settings).madeOutcome settings stop) := by
  rcases course.creates with ⟨none, _⟩ | ⟨before, ys, rfl, early, creation⟩
  · cases none _ created rfl
  · rcases List.mem_append.mp created with created | created
    · cases early _ created rfl
    · obtain ⟨after, stop, rfl, followed, result⟩ := creation.followed created
      exact ⟨before, after, stop, rfl, followed, result⟩

end

/-- A pass that has its creation granted ends well. The requests that set the desired policies follow,
    up to the first that fails or is not made any more; if there is none the outcome is that the
    repository is created, else that its policies are pending, to be asked for again later. -/
theorem granted_creation_ends_well (remote : Remote σ) (limit : Option Nat) {settings : Settings}
    {desired : Snapshot} {latest : Option Snapshot} (s : σ) {c : Creation} {reply : Candidate}
    (created : ⟨.create c, .ok reply⟩ ∈ (reconcile settings desired latest).exchanges remote limit s) :
    let t := (reconcile settings desired latest).run remote limit s
    let xs := (reconcile settings desired latest).exchanges remote limit s
    let target : Target := ⟨desired.spec.registryId.or reply.registryId, desired.name⟩
    let planned :=
      (nonEmptyText desired.spec.lifecyclePolicy).toList.map (Request.putLifecycle target) ++
        (nonEmptyText desired.spec.policy).toList.map (Request.setPolicy target)
    xs.map Exchange.request = t.calls ∧ Replays remote s xs t.state ∧
      ∃ outcome before after, t.result = .ok outcome ∧
        xs = before ++ ⟨.create desired.spec.creation, .ok reply⟩ :: after ∧
        after.map Exchange.request <+: planned ∧
        (outcome.state = .created ↔
          after.map Exchange.request = planned ∧ ∀ x ∈ after, x.granted = true) ∧
        (outcome.state ≠ .created → outcome.state = .createPending ∧
          outcome.requeueSeconds = some settings.requeueSeconds) ∧
        outcome.snapshot.CreatedFrom desired reply := by
  intro t xs target planned
  have course := course_of_attempt remote limit (reconcile settings desired latest) s
  obtain ⟨before, after, stop, parted, followed, result⟩ :=
    (reconciling_of_course course).followed created
  have finished := followed.finished_iff (followUps_strict _)
  refine ⟨Attempt.exchanges_requests remote limit _ s, course_replays course, _, before, after,
    result, parted, followed.requests_prefix, ?_, ?_, createdFrom_madeOutcome settings _ _ stop⟩
  · refine Iff.trans ?_ finished
    cases stop <;> simp [Snapshot.madeOutcome]
  · cases stop with
    | none => exact fun other => absurd rfl other
    | some f => exact fun _ => ⟨rfl, rfl⟩

theorem cut_recreation_is_pending :
    let desired : Snapshot :=
      { spec := { name := "app", lifecyclePolicy := some "[]", policy := some "[]" } }
    let t := (reconcile (.of "123456789012" "us-west-2") desired (some (.named "app"))).run
      Registry.remote (some 3) { stored := [{ name := "base" }] }
    ∃ outcome, t.result = .ok outcome ∧ outcome.state = .createPending ∧
      outcome.requeueSeconds = some 10 ∧
      outcome.snapshot.CreatedFrom desired desired.spec.creation.stored.describe := by
  intro desired t
  obtain ⟨_, _, outcome, _, _, result, _, _, _, pending, snapshot⟩ :=
    @granted_creation_ends_well _ Registry.remote (some 3) (.of "123456789012" "us-west-2") desired
      (some (.named "app")) { stored := [{ name := "base" }] } desired.spec.creation
      desired.spec.creation.stored.describe (List.mem_cons_of_mem _ List.mem_cons_self)
  have state : t.result.toOption.map Outcome.state = some .createPending := by decide +kernel
  rw [show t.result = .ok outcome from result] at state
  have state : outcome.state = .createPending := Option.some.inj state
  obtain ⟨pending, requeue⟩ := pending (by simp [state])
  exact ⟨outcome, result, pending, requeue, snapshot⟩

end Registrar
