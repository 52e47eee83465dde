import Registrar.Proofs.Keeping
import Registrar.Proofs.Settling
import Registrar.Session

/- Runs of passes after a failure for good. As long as the same is desired as when it failed, every
   pass gives back the snapshot that records the failure and asks nothing. The first pass that
   something else is desired of asks again. -/
namespace Registrar

structure Snapshot.Failed (d failed : Snapshot) : Prop where
  terminal : failed.isTerminal = true
  recorded : failed.status.terminalSpec = some d.spec

theorem updated_failed {settings : Settings} {e : Failure} (terminal : e.isTerminal settings = true)
    (d : Snapshot) : d.Failed ((d.updated? (some e) settings).getD d) := by
  obtain ⟨failed, _, recorded⟩ := (d.afterPass_keeps (some e) settings).listed e rfl
    (Failure.isTerminal_iff.mp terminal)
  rw [Snapshot.updated?_getD]
  exact ⟨by rw [Snapshot.isTerminal, failed]; rfl, recorded⟩

namespace Session

structure Turn where
  desired : Snapshot
  limit : Option Nat := none

def Turn.repeats (settings : Settings) (spec : Spec) (p : Turn) : Bool :=
  (ChangeSet.between settings p.desired { spec := spec }).isEmpty

def pass (remote : Remote σ) (settings : Settings) (s : Session σ) (p : Turn) :
    Transcript (Session σ) Result :=
  s.step remote settings p.limit (.reconcile p.desired s.last)

def passes (remote : Remote σ) (settings : Settings) :
    Session σ → List Turn → List (Transcript (Session σ) Result)
  | _, [] => []
  | s, p :: rest =>
    let t := pass remote settings s p
    t :: passes remote settings t.state rest

end Session

section
variable {σ : Type} {remote : Remote σ} {settings : Settings} {d failed : Snapshot} {s : Session σ}
  {p : Session.Turn}

theorem retryBlocked_failed (record : d.Failed failed) :
    retryBlocked settings p.desired failed = p.repeats settings d.spec := by
  rw [retryBlocked, record.terminal, record.recorded, Bool.true_and]
  rfl

theorem pass_blocked (record : d.Failed failed) (last : s.last = some failed)
    (named : p.desired.name ≠ "") (same : p.repeats settings d.spec = true) :
    s.pass remote settings p =
      ⟨.outcome { snapshot := failed, state := .terminal }, [], [.blocked p.desired.name],
        { s with lastFailure := none }⟩ := by
  have blocked : retryBlocked settings p.desired failed = true :=
    (retryBlocked_failed record).trans same
  rw [Session.pass, Session.step, last, Session.Step.attempt, Attempt.run_map,
    run_blocked named blocked]
  simp [Session.Result.ofExcept, Session.Result.snapshot?, Session.Result.failure?, Except.map]

theorem Reconciling.asks_first {desired latest : Snapshot} {xs : List Exchange}
    {res : Except Failure Outcome} (named : desired.name ≠ "")
    (unblocked : retryBlocked settings desired latest = false)
    (course : Reconciling none settings desired (some latest) xs res) :
    ∃ answer rest, xs = ⟨(desired.sought latest).description, answer⟩ :: rest := by
  cases course with
  | unnamed nameless => exact absurd nameless named
  | blocked failed => simp [unblocked] at failed
  | undescribed ended =>
    rcases ended.single_stopped with ⟨_, cut⟩ | ⟨e, rfl⟩
    · exact absurd rfl cut
    · exact ⟨_, _, rfl⟩
  | recreated absent creation => exact ⟨_, _, rfl⟩
  | unread found ended => exact ⟨_, _, rfl⟩
  | placeless found placeless read => exact ⟨_, _, rfl⟩
  | current found located read same => exact ⟨_, _, rfl⟩
  | pushed found located read differs sent => exact ⟨_, _, rfl⟩

theorem calls_unblocked (remote : Remote σ) {desired latest : Snapshot} (named : desired.name ≠ "")
    (unblocked : retryBlocked settings desired latest = false) (u : σ) :
    ∃ registryId rest, ((reconcile settings desired (some latest)).run remote none u).calls =
      .describe registryId [desired.name] :: rest := by
  have course := course_of_attempt remote none (reconcile settings desired (some latest)) u
  obtain ⟨answer, rest, asked⟩ := (reconciling_of_course course).asks_first named unblocked
  have calls := Attempt.exchanges_requests remote none (reconcile settings desired (some latest)) u
  rw [asked, List.map_cons] at calls
  have names : (desired.sought latest).describedNames = [desired.name] := if_neg named
  refine ⟨(desired.sought latest).registryId, rest.map Exchange.request, ?_⟩
  rw [← names]
  exact calls.symm

theorem pass_unblocked (record : d.Failed failed) (last : s.last = some failed)
    (named : p.desired.name ≠ "") (uncut : p.limit = none)
    (other : p.repeats settings d.spec = false) :
    ∃ registryId rest, (s.pass remote settings p).calls =
      .describe registryId [p.desired.name] :: rest := by
  have unblocked : retryBlocked settings p.desired failed = false :=
    (retryBlocked_failed record).trans other
  rw [Session.pass, Session.step, last, uncut, Session.Step.attempt, Attempt.run_map]
  exact calls_unblocked remote named unblocked _

theorem passes_blocked (record : d.Failed failed) {before : List Session.Turn}
    (named : ∀ b ∈ before, b.desired.name ≠ "")
    (same : ∀ b ∈ before, b.repeats settings d.spec = true) (last : s.last = some failed)
    (after : List Session.Turn) :
    ∃ u : Session σ, u.remote = s.remote ∧ u.last = some failed ∧
      (s.passes remote settings (before ++ p :: after))[before.length]? =
        some (u.pass remote settings p) := by
  induction before generalizing s with
  | nil => exact ⟨s, rfl, last, rfl⟩
  | cons b before ih =>
    rw [List.cons_append, Session.passes, List.length_cons, List.getElem?_cons_succ,
      pass_blocked record last (named b List.mem_cons_self) (same b List.mem_cons_self)]
    exact @ih { s with lastFailure := none } (fun c member => named c (List.mem_cons_of_mem b member))
      (fun c member => same c (List.mem_cons_of_mem b member)) last

end

/-- After a failure for good, a pass of a run asks nothing, changes nothing and gives the recorded
    failure back, if the same is desired of it and of all passes before it. The first pass that
    something else is desired of asks for the repository, if it is not cancelled. -/
theorem terminal_failure_stays (remote : Remote σ) {settings : Settings} {d : Snapshot} {e : Failure}
    (terminal : e.isTerminal settings = true) {s : Session σ}
    (start : s.last = some ((d.updated? (some e) settings).getD d)) {turns : List Session.Turn}
    (named : ∀ p ∈ turns, p.desired.name ≠ "") {before after : List Session.Turn}
    {p : Session.Turn} (parted : turns = before ++ p :: after)
    (same : ∀ b ∈ before, b.repeats settings d.spec = true) :
    ∃ t, (s.passes remote settings turns)[before.length]? = some t ∧
      (p.repeats settings d.spec = true →
        t.result = .outcome { snapshot := (d.updated? (some e) settings).getD d, state := .terminal } ∧
          t.calls = [] ∧ t.state.remote = s.remote) ∧
      (p.repeats settings d.spec = false → p.limit = none →
        ∃ registryId rest, t.calls = .describe registryId [p.desired.name] :: rest) := by
  subst parted
  have record := updated_failed terminal d
  have named' := List.forall_mem_append.mp named
  have own := named'.2 p List.mem_cons_self
  obtain ⟨u, still, last, found⟩ := passes_blocked record named'.1 same start after
  refine ⟨_, found, fun repeats => ?_, fun other uncut => ?_⟩
  · rw [pass_blocked record last own repeats]
    exact ⟨rfl, rfl, still⟩
  · exact pass_unblocked record last own uncut other

def reworded : Snapshot where
  spec := { wanted.spec with lifecyclePolicy := some " [ ]", scanning := some ⟨some false⟩ }

def strict : Settings :=
  { Settings.of "123456789012" "us-west-2" with terminalCodes := ["LimitExceededException"] }

theorem reworded_wish_stays_blocked :
    let e : Failure := .remote (.service "LimitExceededException" "too many")
    let failed := (wanted.updated? (some e) strict).getD wanted
    let s : Session Registry := { remote := drifted, last := some failed }
    let run := s.passes Registry.remote strict
      [⟨wanted, some 0⟩, ⟨reworded, none⟩, ⟨.named "app", none⟩]
    (∃ t, run[1]? = some t ∧ t.result = .outcome { snapshot := failed, state := .terminal } ∧
      t.calls = []) ∧
    ∃ t registryId rest, run[2]? = some t ∧ t.calls = .describe registryId ["app"] :: rest := by
  intro e failed s run
  have terminal : e.isTerminal strict = true := by decide +kernel
  have named : ∀ p ∈ [⟨wanted, some 0⟩, ⟨reworded, none⟩, ⟨.named "app", none⟩],
      (p : Session.Turn).desired.name ≠ "" := by decide
  have same : (⟨wanted, some 0⟩ : Session.Turn).repeats strict wanted.spec = true := by
    decide +kernel
  have again : (⟨reworded, none⟩ : Session.Turn).repeats strict wanted.spec = true := by
    decide +kernel
  have other : (⟨.named "app", none⟩ : Session.Turn).repeats strict wanted.spec = false := by
    decide +kernel
  have stays := @terminal_failure_stays _ Registry.remote strict wanted e terminal s rfl _ named
  obtain ⟨t, second, blocked, _⟩ := @stays [⟨wanted, some 0⟩] _ _ rfl
    (List.forall_mem_singleton.mpr same)
  obtain ⟨u, third, _, asks⟩ := @stays [⟨wanted, some 0⟩, ⟨reworded, none⟩] _ _ rfl
    (List.forall_mem_cons.mpr ⟨same, List.forall_mem_singleton.mpr again⟩)
  obtain ⟨result, calls, _⟩ := blocked again
  obtain ⟨registryId, rest, first⟩ := asks other rfl
  exact ⟨⟨t, second, result, calls⟩, u, registryId, rest, third, first⟩

end Registrar
