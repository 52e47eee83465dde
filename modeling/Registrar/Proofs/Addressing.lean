import Registrar.Proofs.FollowUp
import Registrar.Proofs.Isolation

/- Which registry a pass reads from and which it writes to. It reads where the remote has just said the
   repository is, unless a registry is asked for; it writes where the desired snapshot says so by
   itself. The two are one exactly where a registry is asked for, or the status that comes along with
   the desired spec names the one that the remote reports. -/
namespace Registrar

namespace Request

def readsFrom? : Request → Option Target
  | .getPolicy t | .getLifecycle t => some t
  | _ => none

def writesTo? : Request → Option Target
  | .delete t _ | .putScanning t _ | .putMutability t _ | .putLifecycle t _ | .deleteLifecycle t
  | .setPolicy t _ | .deletePolicy t => some t
  | _ => none

end Request

def Described (name : String) (xs : List Exchange) (c : Candidate) : Prop :=
  ∃ registryId names candidates, ⟨.describe registryId names, .ok candidates⟩ ∈ xs ∧
    candidates.find? (·.name = some name) = some c

structure Directed (source sink : Target) (xs : List Exchange) : Prop where
  reads : ∀ x ∈ xs, ∀ t, x.request.readsFrom? = some t → t = source
  writes : ∀ x ∈ xs, ∀ t, x.request.writesTo? = some t → t = sink

section
variable {source sink : Target} {settings : Settings} {limit : Option Nat}
  {desired latest : Snapshot} {xs ys : List Exchange}

theorem Directed.append (first : Directed source sink xs) (second : Directed source sink ys) :
    Directed source sink (xs ++ ys) where
  reads := List.forall_mem_append.mpr ⟨first.reads, second.reads⟩
  writes := List.forall_mem_append.mpr ⟨first.writes, second.writes⟩

theorem Directed.described (rest : Directed source sink xs) (base : Snapshot)
    (answer : Except RemoteError (List Candidate)) :
    Directed source sink (⟨base.description, answer⟩ :: xs) where
  reads := List.forall_mem_cons.mpr ⟨by simp [Snapshot.description, Request.readsFrom?], rest.reads⟩
  writes := List.forall_mem_cons.mpr ⟨by simp [Snapshot.description, Request.writesTo?], rest.writes⟩

theorem FailFast.directed {qs : List Request} {stop : Option Failure}
    (run : FailFast limit qs xs stop) (reads : ∀ q ∈ qs, ∀ t, q.readsFrom? = some t → t = source)
    (writes : ∀ q ∈ qs, ∀ t, q.writesTo? = some t → t = sink) : Directed source sink xs where
  reads _ made := reads _ (run.asked_mem made)
  writes _ made := writes _ (run.asked_mem made)

theorem directed_readings {r : Snapshot} {stop : Option Failure}
    (run : FailFast limit r.readings xs stop) : Directed r.target sink xs := by
  apply run.directed
  · intro q member t read
    rcases Snapshot.mem_readings member with rfl | rfl | ⟨arn, _, rfl⟩ <;> cases read <;> rfl
  · intro q member t written
    rcases Snapshot.mem_readings member with rfl | rfl | ⟨arn, _, rfl⟩ <;> cases written

theorem plan_directed {observed : Snapshot} {changes : ChangeSet} {stop : Option Failure}
    (run : FailFast limit (changes.plan settings desired observed) xs stop) :
    Directed source desired.target xs := by
  have pushes {q : Request} (member : q ∈ changes.plan settings desired observed) :
      q.Pushes desired.target (textOrEmpty (observed.arn.or desired.arn)) := by
    obtain ⟨f, _, asked⟩ := List.mem_flatMap.mp member
    exact requests_push asked
  apply run.directed
  · intro q member t read
    cases pushes member <;> cases read
  · intro q member t written
    cases pushes member <;> cases written <;> rfl

theorem Creating.reads_nothing {res : Except Failure Outcome}
    (creation : Creating limit settings desired xs res) :
    ∀ x ∈ xs, x.request.readsFrom? = none := by
  cases creation with
  | refused ended =>
    intro x made
    rw [List.mem_singleton.mp (ended.asked_mem made)]
    rfl
  | made followed =>
    refine List.forall_mem_cons.mpr ⟨rfl, ?_⟩
    intro x made
    rcases mem_followUps (followed.asked_mem made) with ⟨text, same⟩ | ⟨text, same⟩
    · rw [same]
      rfl
    · rw [same]
      rfl

theorem found_target {found : Snapshot} {candidates : List Candidate} (named : desired.name ≠ "")
    (lookup : Lookup.among (desired.sought latest) candidates settings = .found found) :
    ∃ c, candidates.find? (·.name = some desired.name) = some c ∧
      found.target = ⟨desired.spec.registryId.or c.registryId, desired.name⟩ := by
  obtain ⟨c, picked, rfl⟩ := @among_picked (desired.sought latest) found _ _ named lookup
  have own : c.name = some (desired.sought latest).name := by simpa using List.find?_some picked
  have same : ((desired.sought latest).describedBy c settings).name = desired.name :=
    picked_name named own settings
  refine ⟨c, picked, ?_⟩
  rw [Snapshot.target, same]
  rfl

theorem directed_found {found : Snapshot} {candidates : List Candidate} (named : desired.name ≠ "")
    (lookup : Lookup.among (desired.sought latest) candidates settings = .found found)
    (rest : Directed found.target desired.target xs) :
    let ys := ⟨(desired.sought latest).description, .ok candidates⟩ :: xs
    ∃ c, Described desired.name ys c ∧
      Directed ⟨desired.spec.registryId.or c.registryId, desired.name⟩ desired.target ys := by
  obtain ⟨c, picked, target⟩ := found_target named lookup
  refine ⟨c, ⟨_, _, candidates, List.mem_cons_self, picked⟩, ?_⟩
  rw [← target]
  exact rest.described _ _

theorem Reconciling.directed {latest : Option Snapshot} {res : Except Failure Outcome}
    (named : desired.name ≠ "") (course : Reconciling limit settings desired latest xs res) :
    (∀ x ∈ xs, x.request.readsFrom? = none) ∨ ∃ c, Described desired.name xs c ∧
      Directed ⟨desired.spec.registryId.or c.registryId, desired.name⟩ desired.target xs := by
  cases course with
  | unnamed nameless => exact absurd nameless named
  | created creation => exact .inl creation.reads_nothing
  | blocked failed => exact .inl (by simp)
  | undescribed ended =>
    refine .inl fun x made => ?_
    rw [List.mem_singleton.mp (ended.asked_mem made)]
    rfl
  | recreated absent creation =>
    exact .inl (List.forall_mem_cons.mpr ⟨rfl, creation.reads_nothing⟩)
  | unread found ended => exact .inr (directed_found named found (directed_readings ended))
  | placeless found placeless read =>
    exact .inr (directed_found named found (directed_readings read))
  | current found located read same =>
    exact .inr (directed_found named found (directed_readings read))
  | pushed found located read differs sent =>
    exact .inr (directed_found named found ((directed_readings read).append (plan_directed sent)))

theorem target_eq_iff (c : Candidate) :
    desired.target = ⟨desired.spec.registryId.or c.registryId, desired.name⟩ ↔
      desired.spec.registryId ≠ none ∨ desired.status.registryId = c.registryId := by
  rw [Snapshot.target, Snapshot.registryId, Target.mk.injEq]
  cases desired.spec.registryId with
  | none => simp
  | some id => simp

/-- Where a pass that reads policies writes. It reads them from the registry that the remote reports
    for the repository, if none is asked for, and writes to the one that the desired snapshot has in
    its own status. These are one exactly if a registry is asked for or that status is up to date. -/
theorem written_where_read_iff (remote : Remote σ) (limit : Option Nat)
    {latest : Option Snapshot} (s : σ) {q p : Request} {source sink : Target}
    (read : q ∈ ((reconcile settings desired latest).run remote limit s).calls)
    (reads : q.readsFrom? = some source)
    (written : p ∈ ((reconcile settings desired latest).run remote limit s).calls)
    (writes : p.writesTo? = some sink) :
    let t := (reconcile settings desired latest).run remote limit s
    let xs := (reconcile settings desired latest).exchanges remote limit s
    xs.map Exchange.request = t.calls ∧ Replays remote s xs t.state ∧
      ∃ c, Described desired.name xs c ∧
        source = ⟨desired.spec.registryId.or c.registryId, desired.name⟩ ∧
        sink = desired.target ∧
        (sink = source ↔
          desired.spec.registryId ≠ none ∨ desired.status.registryId = c.registryId) := by
  intro t xs
  have course := course_of_attempt remote limit (reconcile settings desired latest) s
  have calls : xs.map Exchange.request = t.calls := Attempt.exchanges_requests remote limit _ s
  refine ⟨calls, course_replays course, ?_⟩
  have named : desired.name ≠ "" := by
    intro nameless
    have refused : reconcile settings desired latest = throw (.missingField "spec.name") :=
      if_pos nameless
    rw [refused] at read
    cases read
  rw [← calls] at read written
  obtain ⟨x, madeRead, rfl⟩ := List.mem_map.mp read
  obtain ⟨y, madeWrite, rfl⟩ := List.mem_map.mp written
  rcases (reconciling_of_course course).directed named with silent | ⟨c, described, directed⟩
  · cases (silent x madeRead).symm.trans reads
  · obtain rfl := directed.reads x madeRead _ reads
    obtain rfl := directed.writes y madeWrite _ writes
    exact ⟨c, described, rfl, rfl, target_eq_iff c⟩

end

theorem observed_repository_is_written_where_read :
    let desired : Snapshot :=
      ⟨{ name := "app", policy := some "[]" }, { registryId := some Registry.account }⟩
    let t := (reconcile (.of "123456789012" "us-west-2") desired (some (.named "app"))).run
      Registry.remote none { stored := [{ name := "app" }] }
    ∃ target : Target, .getPolicy target ∈ t.calls ∧ .setPolicy target "[]" ∈ t.calls := by
  intro desired t
  have read : .getPolicy ⟨some Registry.account, "app"⟩ ∈ t.calls := by decide +kernel
  have written : .setPolicy desired.target "[]" ∈ t.calls := by decide +kernel
  obtain ⟨_, _, c, _, source, _, same⟩ :=
    written_where_read_iff Registry.remote none _ read rfl written rfl
  have current : desired.status.registryId = c.registryId := congrArg Target.registryId source
  have one : desired.target = ⟨some Registry.account, "app"⟩ := same.mpr (.inr current)
  exact ⟨_, read, one ▸ written⟩

/-- The registry is known from the latest snapshot only. The policies are read there, and the new one
    is set in whichever registry goes without saying. -/
theorem observed_registry_is_not_written :
    let desired : Snapshot := { spec := { name := "app", policy := some "[]" } }
    let latest : Snapshot := ⟨{ name := "app" }, { registryId := some Registry.account }⟩
    let t := (reconcile (.of "123456789012" "us-west-2") desired (some latest)).run Registry.remote
      none { stored := [{ name := "app" }] }
    (∃ outcome, t.result = .ok outcome ∧ outcome.state = .converged) ∧
      .getPolicy ⟨some Registry.account, "app"⟩ ∈ t.calls ∧
      .getLifecycle ⟨some Registry.account, "app"⟩ ∈ t.calls ∧
      .setPolicy ⟨none, "app"⟩ "[]" ∈ t.calls ∧
      (⟨none, "app"⟩ : Target) ≠ ⟨some Registry.account, "app"⟩ := by
  refine ⟨⟨_, rfl, rfl⟩, ?_⟩
  decide +kernel

end Registrar
