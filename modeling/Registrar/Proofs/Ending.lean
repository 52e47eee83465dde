import Registrar.Proofs.Advance

/- How a pass ends that does not fail, and what becomes of the conditions of the latest snapshot.
   Reading a repository back keeps them; they change by what is done about it afterwards. -/
namespace Registrar

structure Status.SameConditions (s t : Status) : Prop where
  synced : s.synced = t.synced
  terminal : s.terminal = t.terminal
  terminalSpec : s.terminalSpec = t.terminalSpec

/-- The ways to end well: the repository is created, a failure for good stands and nothing is asked,
    or the repository is read back and nothing or something is pushed. -/
inductive Ending (settings : Settings) (desired : Snapshot) :
    Option Snapshot → List Exchange → Outcome → Prop where
  | created {latest : Option Snapshot} {xs : List Exchange} {c : Candidate} {stop : Option Failure}
      (made : ⟨.create desired.spec.creation, .ok c⟩ ∈ xs) :
      Ending settings desired latest xs ((desired.createdAs c settings).madeOutcome settings stop)
  | blocked {latest : Snapshot} (failed : retryBlocked settings desired latest = true) :
      Ending settings desired (some latest) [] { snapshot := latest, state := .terminal }
  | current {latest observed : Snapshot} {xs : List Exchange}
      (seen : observed.status.SameConditions latest.status) (kept : mutations xs = []) :
      Ending settings desired (some latest) xs observed.leftAlone
  | pushed {latest observed : Snapshot} {xs : List Exchange}
      (seen : observed.status.SameConditions latest.status) (asked : mutations xs ≠ []) :
      Ending settings desired (some latest) xs (desired.convergedFrom observed)

section
variable {settings : Settings} {desired latest : Snapshot}

theorem among_conditions {base r : Snapshot} {candidates : List Candidate}
    (found : Lookup.among base candidates settings = .found r) :
    r.status.SameConditions base.status := by
  obtain ⟨c, -, rfl⟩ := among_found_iff.mp found
  exact ⟨rfl, rfl, rfl⟩

theorem observed_conditions {r : Snapshot} {candidates : List Candidate}
    (found : Lookup.among (desired.sought latest) candidates settings = .found r)
    (policy lifecycle : Option String) (tags : List Tag) :
    (r.filledIn policy lifecycle tags).status.SameConditions latest.status :=
  @among_conditions _ (desired.sought latest) r candidates found

theorem madeOutcome_cleared (settings : Settings) (desired : Snapshot) (c : Candidate)
    (stop : Option Failure) :
    let s := ((desired.createdAs c settings).madeOutcome settings stop).snapshot.status
    s.terminal = none ∧ s.terminalSpec = none := by
  cases stop <;> exact ⟨rfl, rfl⟩

theorem mutates_of_field {q : Request} {f : Field} (mine : q.field? = some f) :
    q.mutates = true := by
  cases q <;> first | rfl | cases mine

theorem requests_ne_nil {f : Field} (pushed : f ∈ Field.pushed)
    (differs : (ChangeSet.between settings desired latest).differsAt f = true) (arn : String) :
    f.requests settings desired arn latest.spec.tags ≠ [] := by
  cases f with
  | scanning => simp [Field.requests]
  | mutability => simp [Field.requests]
  | encryption => exact absurd pushed (by decide)
  | lifecyclePolicy =>
    rw [Field.requests]
    split <;> simp
  | policy =>
    rw [Field.requests]
    split <;> simp
  | tags =>
    -- Tags that differ have a key to be removed or a tag to be set.
    intro none
    rw [differsAt_between] at differs
    simp only [Difference.at, Difference.tags] at differs
    split at differs <;> rename_i same
    · cases differs
    · rw [sameTags, TagDelta.isEmpty_iff] at same
      simp only [Field.requests, List.append_eq_nil_iff] at none
      refine same ⟨?_, ?_⟩
      · by_contra some
        simp [some] at none
      · by_contra some
        simp [some] at none

theorem plan_mutates
    (needed : (ChangeSet.between settings desired latest).needsRequests = true) :
    ((ChangeSet.between settings desired latest).plan settings desired latest).filter
      Request.mutates ≠ [] := by
  obtain ⟨f, pushed, differs⟩ := List.any_eq_true.mp needed
  obtain ⟨q, asked⟩ := List.exists_mem_of_ne_nil _
    (requests_ne_nil pushed differs (textOrEmpty (latest.arn.or desired.arn)))
  have planned : q ∈ (ChangeSet.between settings desired latest).plan settings desired latest :=
    List.mem_flatMap.mpr ⟨f, List.mem_filter.mpr ⟨pushed, differs⟩, asked⟩
  exact List.ne_nil_of_mem (List.mem_filter.mpr ⟨planned, mutates_of_field (requests_field asked)⟩)

theorem ending_of_reconciling {latest : Option Snapshot} {limit : Option Nat} {xs : List Exchange}
    {outcome : Outcome} (course : Reconciling limit settings desired latest xs (.ok outcome)) :
    Ending settings desired latest xs outcome := by
  generalize ended : (.ok outcome : Except Failure Outcome) = res at course
  cases course with
  | unnamed nameless => cases ended
  | created creation =>
    cases creation with
    | refused stopped => cases ended
    | made followed =>
      cases ended
      exact .created List.mem_cons_self
  | blocked failed =>
    cases ended
    exact .blocked failed
  | undescribed stopped => cases ended
  | recreated absent creation =>
    cases creation with
    | refused stopped => cases ended
    | made followed =>
      cases ended
      exact .created (List.mem_cons_of_mem _ List.mem_cons_self)
  | unread found stopped => cases ended
  | placeless found placeless read => cases ended
  | current found located read same =>
    cases ended
    exact .current (observed_conditions found _ _ _) rfl
  | @pushed _ _ _ _ _ _ _ xs stop found located read differs sent =>
    cases stop with
    | some f => cases ended
    | none =>
      cases ended
      refine .pushed (observed_conditions found _ _ _) ?_
      have asked : mutations xs ≠ [] := by
        rw [mutations, sent.requests_all]
        exact plan_mutates differs
      exact asked

end

end Registrar
