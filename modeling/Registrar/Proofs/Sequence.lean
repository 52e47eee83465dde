import Registrar.Proofs.Due
import Registrar.Proofs.Stages

/- Pushing changes is following a plan. The plan is known before the first request is made: it depends
   on the snapshots and on which fields changed, not on how they changed or in which order that was
   found. Requests are made as planned, up to the first that fails. -/
namespace Registrar

structure UpToFailure (planned : List Request) (xs : List Exchange) : Prop where
  begins : xs.map Exchange.request <+: planned
  through : ∀ x ∈ xs.dropLast, x.passed = true
  whole : (∀ x ∈ xs, x.passed = true) → xs.map Exchange.request = planned

namespace FailFast
variable {limit : Option Nat} {qs : List Request} {xs : List Exchange} {stop : Option Failure}

theorem passed_before_last (run : FailFast limit qs xs stop) :
    ∀ x ∈ xs.dropLast, x.passed = true := by
  induction run with
  | finished => simp
  | cancelled q rest cut => simp
  | refused rest hard => simp
  | @passed x rest xs stop through tail ih =>
    cases xs with
    | nil => simp
    | cons y ys => exact List.forall_mem_cons.mpr ⟨through, ih⟩

theorem stop_none_iff (run : FailFast none qs xs stop) :
    stop = none ↔ ∀ x ∈ xs, x.passed = true := by
  constructor
  · rintro rfl
    exact run.passed_all
  · intro through
    induction run with
    | finished => rfl
    | cancelled q rest cut => exact absurd rfl cut
    | refused rest hard =>
      have passed := through _ List.mem_cons_self
      cases hard.symm.trans passed
    | @passed x rest xs stop _ tail ih =>
      exact ih fun y later => through y (List.mem_cons_of_mem x later)

theorem stop_of_failed (run : FailFast limit qs xs stop) {x : Exchange} (made : x ∈ xs)
    (failed : x.passed = false) : ∃ e, x.answer = .error e ∧ stop = some (.remote e) := by
  induction run with
  | finished => cases made
  | cancelled q rest cut => cases made
  | @refused q e rest hard =>
    cases List.mem_singleton.mp made
    exact ⟨e, rfl, rfl⟩
  | @passed y rest xs stop through tail ih =>
    rcases List.mem_cons.mp made with rfl | later
    · cases through.symm.trans failed
    · exact ih later

theorem upToFailure (run : FailFast none qs xs stop) : UpToFailure qs xs where
  begins := run.requests_prefix
  through := run.passed_before_last
  whole := by
    intro through
    obtain rfl := run.stop_none_iff.mpr through
    exact run.requests_all

end FailFast

namespace ChangeSet

/-- Tags changed, and nothing says by which ARN to ask for them. -/
def Placeless (desired latest : Snapshot) (changes : ChangeSet) : Prop :=
  .tags ∈ changes.fields ∧ latest.arn = none ∧ desired.arn = none

instance (desired latest : Snapshot) (changes : ChangeSet) :
    Decidable (changes.Placeless desired latest) :=
  inferInstanceAs (Decidable (_ ∧ _))

def conclusion (desired latest : Snapshot) (changes : ChangeSet) : Except Failure Snapshot :=
  if changes.Placeless desired latest then .error (.missingField "status.arn") else .ok desired

/-- The fields to be pushed, in their order. Tags are left out where they cannot be asked for. -/
def steps (desired latest : Snapshot) (changes : ChangeSet) : List Field :=
  Field.pushed.filter fun f =>
    f ∈ changes.fields ∧ (f = .tags → (latest.arn.or desired.arn).isSome = true)

def planned (settings : Settings) (desired latest : Snapshot) (changes : ChangeSet) : List Request :=
  (changes.steps desired latest).flatMap
    (Field.requests settings desired (textOrEmpty (latest.arn.or desired.arn)) latest.spec.tags)

theorem differsAt_eq_mem (s : ChangeSet) (f : Field) : s.differsAt f = decide (f ∈ s.fields) := by
  unfold differsAt fields
  rw [Bool.eq_iff_iff, List.any_eq_true, decide_eq_true_eq, List.mem_map]
  simp

theorem differsAt_iff_mem {s : ChangeSet} {f : Field} : s.differsAt f = true ↔ f ∈ s.fields := by
  rw [differsAt_eq_mem, decide_eq_true_eq]

end ChangeSet

section
variable {settings : Settings} {desired latest : Snapshot} {changes other : ChangeSet}

theorem located_of_not_placeless (placed : ¬ changes.Placeless desired latest)
    (differs : changes.differsAt .tags = true) : ∃ arn, latest.arn.or desired.arn = some arn := by
  apply Option.ne_none_iff_exists'.mp
  intro none
  exact placed ⟨ChangeSet.differsAt_iff_mem.mp differs, Option.or_eq_none_iff.mp none⟩

theorem planned_eq_plan (placed : ¬ changes.Placeless desired latest) :
    changes.planned settings desired latest = changes.plan settings desired latest := by
  have same : changes.steps desired latest = Field.pushed.filter changes.differsAt := by
    apply List.filter_congr
    intro f _
    rw [ChangeSet.differsAt_eq_mem, decide_eq_decide]
    refine and_iff_left_of_imp fun changed tags => ?_
    subst tags
    obtain ⟨arn, known⟩ := located_of_not_placeless placed (ChangeSet.differsAt_iff_mem.mpr changed)
    rw [known, Option.isSome_some]
  rw [ChangeSet.planned, same, ChangeSet.plan]

theorem steps_placeless (placeless : changes.Placeless desired latest) :
    changes.steps desired latest =
      [.scanning, .mutability, .lifecyclePolicy, .policy].filter changes.differsAt := by
  obtain ⟨_, seen, given⟩ := placeless
  have earlier : Field.pushed = [.scanning, .mutability, .lifecyclePolicy, .policy] ++ [.tags] := rfl
  rw [ChangeSet.steps, earlier, List.filter_append]
  have last : [Field.tags].filter (fun f =>
      f ∈ changes.fields ∧ (f = .tags → (latest.arn.or desired.arn).isSome = true)) = [] := by
    simp [seen, given]
  rw [last, List.append_nil]
  apply List.filter_congr
  intro f member
  have other : f ≠ .tags := by
    rintro rfl
    exact absurd member (by decide)
  simp [other, ChangeSet.differsAt_eq_mem]

theorem planned_placeless (placeless : changes.Placeless desired latest) {q : Request}
    (member : q ∈ changes.planned settings desired latest) : q.field? ≠ some .tags := by
  obtain ⟨f, step, asked⟩ := List.mem_flatMap.mp member
  rw [steps_placeless placeless, List.mem_filter] at step
  rw [requests_field asked]
  rintro ⟨⟩
  exact absurd step.1 (by decide)

theorem pushAll_append (fs gs : List Field) :
    pushAll settings desired latest changes (fs ++ gs) = (do
      pushAll settings desired latest changes fs
      pushAll settings desired latest changes gs) := by
  induction fs with
  | nil => simp [pushAll]
  | cons f fs ih =>
    rw [List.cons_append, pushAll, pushAll, ih]
    split
    · simp only [bind_assoc]
    · rfl

theorem pushAll_tags_placeless (placeless : changes.Placeless desired latest) :
    pushAll settings desired latest changes [.tags] = (do
      Attempt.tell (.pushing desired.name .tags)
      throw (.missingField "status.arn")) := by
  obtain ⟨changed, seen, given⟩ := placeless
  rw [pushAll, if_pos (ChangeSet.differsAt_iff_mem.mpr changed), push, pushTags, seen, given]
  rfl

theorem silent_converge_placeless (placeless : changes.Placeless desired latest) :
    Attempt.silent (converge settings desired latest changes) = Attempt.silent (do
      Attempt.deliverAll (changes.planned settings desired latest)
      throw (.missingField "status.arn")) := by
  have earlier : Field.pushed = [.scanning, .mutability, .lifecyclePolicy, .policy] ++ [.tags] := rfl
  have pushed := @Attempt.silent_pushAll settings desired latest changes
    [.scanning, .mutability, .lifecyclePolicy, .policy] (fun tags => absurd tags (by decide))
  rw [converge, earlier, pushAll_append, pushAll_tags_placeless placeless]
  rw [ChangeSet.planned, steps_placeless placeless]
  split
  · simp only [Attempt.silent_bind, Attempt.silent_tell, pure_bind, pushed, bind_assoc]
    rfl
  · simp only [Attempt.silent_bind, Attempt.silent_tell, pure_bind, pushed, bind_assoc]
    rfl

theorem course_converge_planned {remote : Remote σ} {limit : Option Nat} {made : Nat} {s t : σ}
    {xs : List Exchange} {res : Except Failure Snapshot}
    (course : AttemptCourse remote limit (converge settings desired latest changes) made s xs res t) :
    ∃ stop, FailFast limit (changes.planned settings desired latest) xs stop ∧
      res = stop.elim (changes.conclusion desired latest) .error := by
  rw [ChangeSet.conclusion]
  split <;> rename_i placeless
  · have course := Attempt.course_congr (silent_converge_placeless placeless) course
    rcases attempt_bind course with ⟨f, sent, rfl⟩ | ⟨_, ys, u, zs, sent, ended, rfl⟩
    · exact ⟨some f, failFast_of_course sent, rfl⟩
    · obtain ⟨rfl, rfl, _⟩ := attempt_throw ended
      rw [List.append_nil]
      exact ⟨none, failFast_of_course sent, rfl⟩
  · obtain ⟨stop, run, rfl⟩ := course_converge (located_of_not_placeless placeless) course
    rw [planned_eq_plan placeless]
    refine ⟨stop, run, ?_⟩
    cases stop <;> rfl

/-- What changed is all that counts, not how it changed or where in the set that stands. -/
theorem converge_congr (same : ∀ f, f ∈ other.fields ↔ f ∈ changes.fields) :
    converge settings desired latest other = converge settings desired latest changes := by
  have differs : other.differsAt = changes.differsAt := by
    funext f
    rw [ChangeSet.differsAt_eq_mem, ChangeSet.differsAt_eq_mem, decide_eq_decide]
    exact same f
  have pushed (fs : List Field) : pushAll settings desired latest other fs =
      pushAll settings desired latest changes fs := by
    induction fs with
    | nil => rfl
    | cons f fs ih => rw [pushAll, pushAll, ih, differs]
  rw [converge, converge, differs, pushed]

/-- A pass over the changed fields that is not cancelled makes the requests of its plan, up to and
    including the first that fails. It gives the desired snapshot back exactly if none fails, and else
    that failure; tags that nothing locates are a failure of their own, which is met after the requests
    of all other fields. -/
theorem converge_keeps_to_plan (remote : Remote σ) (settings : Settings) (desired latest : Snapshot)
    (changes : ChangeSet) (s : σ) :
    let t := (converge settings desired latest changes).run remote none s
    let xs := (converge settings desired latest changes).exchanges remote none s
    xs.map Exchange.request = t.calls ∧ Replays remote s xs t.state ∧
      UpToFailure (changes.planned settings desired latest) xs ∧
      (t.result = .ok desired ↔
        (∀ x ∈ xs, x.passed = true) ∧ ¬ changes.Placeless desired latest) ∧
      (t.result = .error (.missingField "status.arn") ↔
        (∀ x ∈ xs, x.passed = true) ∧ changes.Placeless desired latest) ∧
      (∀ x ∈ xs, x.passed = false → ∃ e, x.answer = .error e ∧ t.result = .error (.remote e)) ∧
      (changes.Placeless desired latest → ∀ q ∈ t.calls, q.field? ≠ some .tags) ∧
      ∀ other : ChangeSet, (∀ f, f ∈ other.fields ↔ f ∈ changes.fields) →
        converge settings desired latest other = converge settings desired latest changes := by
  intro t xs
  have course := course_of_attempt remote none (converge settings desired latest changes) s
  have calls : xs.map Exchange.request = t.calls := Attempt.exchanges_requests remote none _ s
  obtain ⟨stop, run, result⟩ := course_converge_planned course
  have result : t.result = stop.elim (changes.conclusion desired latest) .error := result
  refine ⟨calls, course_replays course, run.upToFailure, ?_, ?_, ?_, ?_, ?_⟩
  · rw [result, ← run.stop_none_iff, ChangeSet.conclusion]
    cases stop with
    | none => simp
    | some f => simp
  · rw [result, ← run.stop_none_iff, ChangeSet.conclusion]
    cases stop with
    | none => simp
    | some f => rcases run.stop_cases with ⟨op, rfl⟩ | ⟨e, rfl⟩ <;> simp
  · intro x made failed
    obtain ⟨e, refused, rfl⟩ := run.stop_of_failed made failed
    exact ⟨e, refused, result⟩
  · intro placeless q asked
    rw [← calls] at asked
    exact planned_placeless placeless (run.requests_prefix.subset asked)
  · intro other same
    exact converge_congr same

end

end Registrar
