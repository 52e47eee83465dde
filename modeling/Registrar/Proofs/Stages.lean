import Registrar.Proofs.Delivery
import Registrar.Reconcile

/- What each stage of a pass asks and makes of the answers: reading a repository back, pushing what
   differs, creating. The stages are taken apart here once; what holds of whole passes is concluded
   from these facts. -/
namespace Registrar

/-- The requests that load what a description leaves out. Without an ARN tags cannot be asked for. -/
def Snapshot.readings (r : Snapshot) : List Request :=
  [.getPolicy r.target, .getLifecycle r.target] ++ r.arn.toList.map .listTags

theorem Snapshot.mem_readings {r : Snapshot} {q : Request} (member : q ∈ r.readings) :
    q = .getPolicy r.target ∨ q = .getLifecycle r.target ∨
      ∃ arn, r.arn = some arn ∧ q = .listTags arn := by
  rw [readings] at member
  rcases List.mem_append.mp member with named | located
  · rcases List.mem_cons.mp named with first | last
    · exact .inl first
    · exact .inr (.inl (List.mem_singleton.mp last))
  · obtain ⟨arn, found, same⟩ := List.mem_map.mp located
    exact .inr (.inr ⟨arn, Option.mem_toList.mp found, same.symm⟩)

def Snapshot.filledIn (r : Snapshot) (policy lifecycle : Option String) (tags : List Tag) :
    Snapshot :=
  { r with spec := { r.spec with policy := policy, lifecyclePolicy := lifecycle, tags := tags } }

section
variable {σ : Type} {remote : Remote σ} {limit : Option Nat} {made : Nat} {s t : σ}
  {xs : List Exchange}

theorem course_observePolicy {r : Snapshot} {res : Except Failure (Option String)}
    (course : AttemptCourse remote limit (observePolicy r) made s xs res t) :
    (∃ stop, res = .error stop ∧
        ∀ rest, FailFast limit (.getPolicy r.target :: rest) xs (some stop)) ∨
      ∃ answer, xs = [⟨.getPolicy r.target, answer⟩] ∧
        Exchange.passed ⟨.getPolicy r.target, answer⟩ = true ∧ res = .ok answer.toOption := by
  refine course_answer (fun answer through => ?_) (fun e hard => ?_) course
  · cases answer with
    | ok text => rfl
    | error e => exact if_pos through
  · exact if_neg (Bool.eq_false_iff.mp hard)

theorem course_observeLifecycle {r : Snapshot} {res : Except Failure (Option String)}
    (course : AttemptCourse remote limit (observeLifecycle r) made s xs res t) :
    (∃ stop, res = .error stop ∧
        ∀ rest, FailFast limit (.getLifecycle r.target :: rest) xs (some stop)) ∨
      ∃ answer, xs = [⟨.getLifecycle r.target, answer⟩] ∧
        Exchange.passed ⟨.getLifecycle r.target, answer⟩ = true ∧ res = .ok answer.toOption := by
  refine course_answer (fun answer through => ?_) (fun e hard => ?_) course
  · cases answer with
    | ok text => rfl
    | error e => exact if_pos through
  · exact if_neg (Bool.eq_false_iff.mp hard)

theorem course_observeRest {r : Snapshot} {res : Except Failure Snapshot}
    (course : AttemptCourse remote limit (observeRest r) made s xs res t) :
    (∃ stop, res = .error stop ∧ FailFast limit r.readings xs (some stop)) ∨
      (r.arn = none ∧ res = .error (.missingField "status.arn") ∧
        FailFast limit r.readings xs none) ∨
      ∃ arn policy lifecycle tags, r.arn = some arn ∧
        xs = [⟨.getPolicy r.target, policy⟩, ⟨.getLifecycle r.target, lifecycle⟩,
          ⟨.listTags arn, .ok tags⟩] ∧ FailFast limit r.readings xs none ∧
        res = .ok (r.filledIn policy.toOption lifecycle.toOption tags) := by
  rcases attempt_bind course with ⟨stop, first, rfl⟩ | ⟨_, _, _, _, first, afterPolicy, rfl⟩
  · rcases course_observePolicy first with ⟨_, h, ended⟩ | ⟨_, _, _, h⟩
    · cases h
      exact .inl ⟨stop, rfl, ended _⟩
    · cases h
  rcases course_observePolicy first with ⟨_, h, _⟩ | ⟨policy, rfl, gotPolicy, h⟩
  · cases h
  cases h
  rcases attempt_bind afterPolicy with ⟨stop, second, rfl⟩ | ⟨_, _, _, _, second, afterLifecycle, rfl⟩
  · rcases course_observeLifecycle second with ⟨_, h, ended⟩ | ⟨_, _, _, h⟩
    · cases h
      exact .inl ⟨stop, rfl, .passed (x := ⟨_, policy⟩) gotPolicy (ended _)⟩
    · cases h
  rcases course_observeLifecycle second with ⟨_, h, _⟩ | ⟨lifecycle, rfl, gotLifecycle, h⟩
  · cases h
  cases h
  cases described : r.arn with
  | none =>
    rw [described] at afterLifecycle
    obtain ⟨rfl, rfl, _⟩ := attempt_throw afterLifecycle
    refine .inr (.inl ⟨rfl, rfl, ?_⟩)
    rw [Snapshot.readings, described]
    exact .passed (x := ⟨_, policy⟩) gotPolicy
      (.passed (x := ⟨_, lifecycle⟩) gotLifecycle .finished)
  | some arn =>
    rw [Snapshot.readings, described]
    rw [described] at afterLifecycle
    rcases attempt_bind afterLifecycle with ⟨stop, third, rfl⟩ | ⟨tags, _, _, _, third, afterTags, rfl⟩
    · rcases course_demand (fun _ => rfl) third with ⟨_, h, ended⟩ | ⟨_, _, h⟩
      · cases h
        exact .inl ⟨stop, rfl, .passed (x := ⟨_, policy⟩) gotPolicy
          (.passed (x := ⟨_, lifecycle⟩) gotLifecycle (ended []))⟩
      · cases h
    rcases course_demand (fun _ => rfl) third with ⟨_, h, _⟩ | ⟨_, rfl, h⟩
    · cases h
    cases h
    obtain ⟨rfl, rfl, _⟩ := attempt_pure (attempt_note (f := fun _ => pure _) afterTags)
    refine .inr (.inr ⟨arn, policy, lifecycle, tags, rfl, rfl, ?_, rfl⟩)
    exact .passed (x := ⟨_, policy⟩) gotPolicy
      (.passed (x := ⟨_, lifecycle⟩) gotLifecycle (.passed (x := ⟨_, .ok tags⟩) rfl .finished))

def Snapshot.describedNames (r : Snapshot) : List String := if r.name = "" then [] else [r.name]

def Snapshot.description (r : Snapshot) : Request := .describe r.registryId r.describedNames

theorem course_observe {settings : Settings} {base : Snapshot} {res : Except Failure Snapshot}
    (course : AttemptCourse remote limit (observe settings base) made s xs res t) :
    (∃ stop, res = .error stop ∧ FailFast limit [base.description] xs (some stop)) ∨
      (∃ answer, xs = [⟨base.description, answer⟩] ∧ res = .error (.notFound base.name) ∧
        ((∃ e, answer = .error e ∧ e.isNoRepository = true) ∨
          ∃ candidates, answer = .ok candidates ∧
            (Lookup.among base candidates settings).isFound = false)) ∨
      ∃ candidates r made u ys, xs = ⟨base.description, .ok candidates⟩ :: ys ∧
        Lookup.among base candidates settings = .found r ∧
        AttemptCourse remote limit (observeRest r) made u ys res t := by
  rcases attempt_answer course with ⟨cut, rfl, rfl, _⟩ | ⟨_, answer, u, ys, _, rest, rfl⟩
  · exact .inl ⟨_, rfl, .cancelled base.description [] (limit_of_cancelled cut)⟩
  · cases answer with
    | error e =>
      dsimp only at rest
      split at rest
      · obtain ⟨rfl, rfl, _⟩ := attempt_throw rest
        exact .inr (.inl ⟨_, rfl, rfl, .inl ⟨e, rfl, ‹_›⟩⟩)
      · obtain ⟨rfl, rfl, _⟩ := attempt_throw rest
        exact .inl ⟨_, rfl, .refused [] rfl⟩
    | ok candidates =>
      dsimp only at rest
      split at rest <;> rename_i found
      · exact .inr (.inr ⟨candidates, _, _, u, ys, rfl, found, rest⟩)
      · obtain ⟨rfl, rfl, _⟩ := attempt_throw (attempt_note rest)
        exact .inr (.inl ⟨_, rfl, rfl, .inr ⟨candidates, rfl, by rw [found]; rfl⟩⟩)
      · obtain ⟨rfl, rfl, _⟩ := attempt_throw (attempt_note rest)
        exact .inr (.inl ⟨_, rfl, rfl, .inr ⟨candidates, rfl, by rw [found]; rfl⟩⟩)

def Snapshot.leftAlone (observed : Snapshot) : Outcome :=
  if observed.isTerminal then { snapshot := observed, state := .terminal }
  else { snapshot := observed.withSynced .met, state := .inSync }

def Snapshot.convergedFrom (desired observed : Snapshot) : Outcome where
  snapshot := { desired with status := observed.status }.withoutTerminal.withSynced .met
  state := .converged

def resultOf (a : α) : Option Failure → Except Failure α
  | none => .ok a
  | some f => .error f

theorem course_converge {settings : Settings} {desired latest : Snapshot} {changes : ChangeSet}
    (known : changes.differsAt .tags = true → ∃ arn, latest.arn.or desired.arn = some arn)
    {res : Except Failure Snapshot}
    (course : AttemptCourse remote limit (converge settings desired latest changes) made s xs res t) :
    ∃ stop, FailFast limit (changes.plan settings desired latest) xs stop ∧
      res = resultOf desired stop := by
  rcases attempt_bind (Attempt.course_congr (Attempt.silent_converge settings known) course) with
    ⟨stop, sent, rfl⟩ | ⟨_, _, _, _, sent, done, rfl⟩
  · exact ⟨some stop, failFast_of_course sent, rfl⟩
  · obtain ⟨rfl, rfl, _⟩ := attempt_pure done
    rw [List.append_nil]
    exact ⟨none, failFast_of_course sent, rfl⟩

theorem course_update {settings : Settings} {desired observed : Snapshot}
    (described : ∃ arn, observed.arn = some arn) {res : Except Failure Outcome}
    (course : AttemptCourse remote limit (update settings desired observed) made s xs res t) :
    ((ChangeSet.between settings desired observed).needsRequests = false ∧ xs = [] ∧
        res = .ok observed.leftAlone) ∨
      (ChangeSet.between settings desired observed).needsRequests = true ∧ ∃ stop,
        FailFast limit ((ChangeSet.between settings desired observed).plan settings desired observed)
          xs stop ∧ res = resultOf (desired.convergedFrom observed) stop := by
  obtain ⟨arn, described⟩ := described
  have known : ∃ arn, observed.arn.or desired.arn = some arn := ⟨arn, by simp [described]⟩
  simp only [update] at course
  split at course <;> rename_i needed
  · refine .inr ⟨needed, ?_⟩
    have course := attempt_note course
    rcases attempt_bind course with ⟨_, sent, rfl⟩ | ⟨_, _, _, _, sent, done, rfl⟩
    · obtain ⟨stop, run, h⟩ := course_converge (fun _ => known) sent
      refine ⟨stop, run, ?_⟩
      cases stop with
      | none => cases h
      | some stop =>
        cases h
        rfl
    · obtain ⟨stop, run, h⟩ := course_converge (fun _ => known) sent
      obtain ⟨rfl, rfl, _⟩ := attempt_pure done
      rw [List.append_nil]
      refine ⟨stop, run, ?_⟩
      cases stop with
      | none =>
        cases h
        rfl
      | some stop => cases h
  · refine .inl ⟨Bool.eq_false_iff.mpr needed, ?_⟩
    have quiet : AttemptCourse remote limit
        (if observed.isTerminal then do
          Attempt.tell (.staysTerminal observed.name)
          pure { snapshot := observed, state := .terminal }
        else do
          Attempt.tell (.inSync observed.name)
          pure { snapshot := observed.withSynced .met, state := .inSync }) made s xs res t := by
      split at course
      · exact attempt_note course
      · exact course
    rw [Snapshot.leftAlone]
    split at quiet <;> rename_i terminal
    · obtain ⟨rfl, rfl, _⟩ := attempt_pure (attempt_note (f := fun _ => pure _) quiet)
      simp [terminal]
    · obtain ⟨rfl, rfl, _⟩ := attempt_pure (attempt_note (f := fun _ => pure _) quiet)
      simp [terminal]

end

namespace Snapshot

def followUps (r : Snapshot) : List Request :=
  (nonEmptyText r.spec.lifecyclePolicy).toList.map (.putLifecycle r.target) ++
    (nonEmptyText r.spec.policy).toList.map (.setPolicy r.target)

def madeOutcome (settings : Settings) (r : Snapshot) : Option Failure → Outcome
  | none => { snapshot := r.withSynced .met, state := .created }
  | some f =>
    { snapshot := r.withSynced (.unmet ("pending: " ++ f.message))
      requeueSeconds := some settings.requeueSeconds
      state := .createPending }

theorem plan_policiesToSet (settings : Settings) (r : Snapshot) :
    r.policiesToSet.plan settings r r.withoutPolicies = r.followUps := by
  simp only [policiesToSet, ChangeSet.plan, followUps, Field.pushed]
  cases lifecycle : nonEmptyText r.spec.lifecyclePolicy <;>
    cases policy : nonEmptyText r.spec.policy <;>
    simp [ChangeSet.add, ChangeSet.empty, ChangeSet.putChange, ChangeSet.differsAt,
      Field.requests, lifecycle, policy]

theorem policiesToSet_tags (r : Snapshot) : r.policiesToSet.differsAt .tags = false := by
  simp only [policiesToSet]
  cases nonEmptyText r.spec.lifecyclePolicy <;> cases nonEmptyText r.spec.policy <;> rfl

theorem policiesToSet_isEmpty {r : Snapshot} (h : r.policiesToSet.isEmpty = true) :
    r.followUps = [] := by
  simp only [policiesToSet] at h
  simp only [followUps]
  cases lifecycle : nonEmptyText r.spec.lifecyclePolicy <;>
    cases policy : nonEmptyText r.spec.policy <;>
    simp_all [ChangeSet.add, ChangeSet.empty, ChangeSet.putChange, ChangeSet.isEmpty]

end Snapshot

/-- The exchanges of a creation and its result. Once the repository exists there is one. -/
inductive Creating (limit : Option Nat) (settings : Settings) (desired : Snapshot) :
    List Exchange → Except Failure Outcome → Prop where
  | refused {xs : List Exchange} {stop : Failure}
      (ended : FailFast limit [.create desired.spec.creation] xs (some stop)) :
      Creating limit settings desired xs (.error stop)
  | made {c : Candidate} {xs : List Exchange} {stop : Option Failure}
      (followed : FailFast limit (desired.createdAs c settings).followUps xs stop) :
      Creating limit settings desired (⟨.create desired.spec.creation, .ok c⟩ :: xs)
        (.ok ((desired.createdAs c settings).madeOutcome settings stop))

section
variable {σ : Type} {remote : Remote σ} {limit : Option Nat} {made : Nat} {s t : σ}
  {xs : List Exchange} {settings : Settings} {desired : Snapshot} {res : Except Failure Outcome}

theorem creating_of_course
    (course : AttemptCourse remote limit (create settings desired) made s xs res t) :
    Creating limit settings desired xs res := by
  rcases attempt_bind (attempt_note course) with ⟨_, first, rfl⟩ | ⟨c, _, _, _, first, rest, rfl⟩
  · rcases course_demand (fun _ => rfl) first with ⟨stop, h, ended⟩ | ⟨_, _, h⟩
    · cases h
      exact .refused (ended [])
    · cases h
  rcases course_demand (fun _ => rfl) first with ⟨_, h, _⟩ | ⟨_, rfl, h⟩
  · cases h
  cases h
  have rest := attempt_note rest
  dsimp only at rest
  split at rest <;> rename_i nothing
  · obtain ⟨rfl, rfl, _⟩ := attempt_pure rest
    refine @Creating.made limit settings desired c [] none ?_
    rw [Snapshot.policiesToSet_isEmpty nothing]
    exact .finished
  · rcases attempt_bind rest with ⟨_, sent, rfl⟩ | ⟨answer, _, _, _, sent, done, rfl⟩
    · obtain ⟨_, _, h⟩ := attempt_outcome sent
      cases h
    · obtain ⟨_, sent, h⟩ := attempt_outcome sent
      cases h
      obtain ⟨stop, run, rfl⟩ := course_converge (by simp [Snapshot.policiesToSet_tags]) sent
      rw [Snapshot.plan_policiesToSet] at run
      cases stop with
      | none =>
        obtain ⟨rfl, rfl, _⟩ := attempt_pure done
        rw [List.append_nil]
        exact .made run
      | some f =>
        obtain ⟨rfl, rfl, _⟩ := attempt_pure (attempt_note (f := fun _ => pure _) done)
        rw [List.append_nil]
        exact .made run

end

/-- Where the pass reads the repository from: what is desired, where it was last seen. -/
def Snapshot.sought (desired latest : Snapshot) : Snapshot := ⟨desired.spec, latest.status⟩

inductive Absent (settings : Settings) (base : Snapshot) :
    Except RemoteError (List Candidate) → Prop where
  | refused {e : RemoteError} (missing : e.isNoRepository = true) : Absent settings base (.error e)
  | others {candidates : List Candidate}
      (unfound : (Lookup.among base candidates settings).isFound = false) :
      Absent settings base (.ok candidates)

inductive Reconciling (limit : Option Nat) (settings : Settings) (desired : Snapshot) :
    Option Snapshot → List Exchange → Except Failure Outcome → Prop where
  | unnamed {latest : Option Snapshot} (nameless : desired.name = "") :
      Reconciling limit settings desired latest [] (.error (.missingField "spec.name"))
  | created {xs : List Exchange} {res : Except Failure Outcome}
      (creation : Creating limit settings desired xs res) :
      Reconciling limit settings desired none xs res
  | blocked {latest : Snapshot} (failed : retryBlocked settings desired latest = true) :
      Reconciling limit settings desired (some latest) []
        (.ok { snapshot := latest, state := .terminal })
  | undescribed {latest : Snapshot} {xs : List Exchange} {stop : Failure}
      (ended : FailFast limit [(desired.sought latest).description] xs (some stop)) :
      Reconciling limit settings desired (some latest) xs (.error stop)
  | recreated {latest : Snapshot} {answer : Except RemoteError (List Candidate)}
      {xs : List Exchange} {res : Except Failure Outcome}
      (absent : Absent settings (desired.sought latest) answer)
      (creation : Creating limit settings desired xs res) :
      Reconciling limit settings desired (some latest)
        (⟨(desired.sought latest).description, answer⟩ :: xs) res
  | unread {latest r : Snapshot} {candidates : List Candidate} {xs : List Exchange}
      {stop : Failure}
      (found : Lookup.among (desired.sought latest) candidates settings = .found r)
      (ended : FailFast limit r.readings xs (some stop)) :
      Reconciling limit settings desired (some latest)
        (⟨(desired.sought latest).description, .ok candidates⟩ :: xs) (.error stop)
  | placeless {latest r : Snapshot} {candidates : List Candidate} {xs : List Exchange}
      (found : Lookup.among (desired.sought latest) candidates settings = .found r)
      (placeless : r.arn = none) (read : FailFast limit r.readings xs none) :
      Reconciling limit settings desired (some latest)
        (⟨(desired.sought latest).description, .ok candidates⟩ :: xs)
        (.error (.missingField "status.arn"))
  | current {latest r : Snapshot} {candidates : List Candidate} {arn : String}
      {policy lifecycle : Except RemoteError String} {tags : List Tag}
      (found : Lookup.among (desired.sought latest) candidates settings = .found r)
      (located : r.arn = some arn)
      (read : FailFast limit r.readings [⟨.getPolicy r.target, policy⟩,
        ⟨.getLifecycle r.target, lifecycle⟩, ⟨.listTags arn, .ok tags⟩] none)
      (same : (ChangeSet.between settings desired
        (r.filledIn policy.toOption lifecycle.toOption tags)).needsRequests = false) :
      Reconciling limit settings desired (some latest)
        [⟨(desired.sought latest).description, .ok candidates⟩, ⟨.getPolicy r.target, policy⟩,
          ⟨.getLifecycle r.target, lifecycle⟩, ⟨.listTags arn, .ok tags⟩]
        (.ok (r.filledIn policy.toOption lifecycle.toOption tags).leftAlone)
  | pushed {latest r : Snapshot} {candidates : List Candidate} {arn : String}
      {policy lifecycle : Except RemoteError String} {tags : List Tag} {xs : List Exchange}
      {stop : Option Failure}
      (found : Lookup.among (desired.sought latest) candidates settings = .found r)
      (located : r.arn = some arn)
      (read : FailFast limit r.readings [⟨.getPolicy r.target, policy⟩,
        ⟨.getLifecycle r.target, lifecycle⟩, ⟨.listTags arn, .ok tags⟩] none)
      (differs : (ChangeSet.between settings desired
        (r.filledIn policy.toOption lifecycle.toOption tags)).needsRequests = true)
      (sent : FailFast limit ((ChangeSet.between settings desired
        (r.filledIn policy.toOption lifecycle.toOption tags)).plan settings desired
          (r.filledIn policy.toOption lifecycle.toOption tags)) xs stop) :
      Reconciling limit settings desired (some latest)
        (⟨(desired.sought latest).description, .ok candidates⟩ :: ⟨.getPolicy r.target, policy⟩ ::
          ⟨.getLifecycle r.target, lifecycle⟩ :: ⟨.listTags arn, .ok tags⟩ :: xs)
        (resultOf (desired.convergedFrom (r.filledIn policy.toOption lifecycle.toOption tags)) stop)

def afterReading (settings : Settings) (desired : Snapshot) :
    Except Failure Snapshot → Attempt Outcome
  | .ok observed => update settings desired observed
  | .error (.notFound _) => do
    Attempt.tell (.recreating desired.name)
    create settings desired
  | .error f => throw f

section
variable {σ : Type} {remote : Remote σ} {limit : Option Nat} {made : Nat} {s t : σ}
  {xs : List Exchange} {settings : Settings} {desired : Snapshot} {res : Except Failure Outcome}

theorem course_unread {qs : List Request} {ys : List Exchange} {stop : Failure}
    (run : FailFast limit qs ys (some stop))
    (course : AttemptCourse remote limit (afterReading settings desired (.error stop)) made s xs
      res t) : xs = [] ∧ res = .error stop := by
  rcases run.stop_cases with ⟨_, rfl⟩ | ⟨_, rfl⟩
  · obtain ⟨rfl, rfl, _⟩ := attempt_throw course
    exact ⟨rfl, rfl⟩
  · obtain ⟨rfl, rfl, _⟩ := attempt_throw course
    exact ⟨rfl, rfl⟩

theorem reconciling_of_course {latest : Option Snapshot}
    (course : AttemptCourse remote limit (reconcile settings desired latest) made s xs res t) :
    Reconciling limit settings desired latest xs res := by
  simp only [reconcile] at course
  split at course <;> rename_i named
  · obtain ⟨rfl, rfl, _⟩ := attempt_throw course
    exact .unnamed named
  cases latest with
  | none => exact .created (creating_of_course course)
  | some latest =>
    dsimp only at course
    split at course <;> rename_i failed
    · obtain ⟨rfl, rfl, _⟩ := attempt_pure (attempt_note (f := fun _ => pure _) course)
      exact .blocked failed
    have course : AttemptCourse remote limit
        (Attempt.outcome (observe settings (desired.sought latest)) >>= afterReading settings desired)
        made s xs res t := course
    -- The reading is run for its outcome, so that it cannot end the pass by itself.
    rcases attempt_bind course with ⟨_, h, rfl⟩ | ⟨_, ys, u, zs, h, rest, rfl⟩
    · obtain ⟨_, _, h⟩ := attempt_outcome h
      cases h
    obtain ⟨_, seen, h⟩ := attempt_outcome h
    cases h
    rcases course_observe seen with
      ⟨stop, rfl, ended⟩ | ⟨answer, rfl, rfl, absent⟩ | ⟨candidates, r, _, _, _, rfl, found, seen⟩
    · obtain ⟨rfl, rfl⟩ := course_unread ended rest
      rw [List.append_nil]
      exact .undescribed ended
    · refine .recreated ?_ (creating_of_course (attempt_note rest))
      rcases absent with ⟨e, rfl, missing⟩ | ⟨candidates, rfl, unfound⟩
      · exact .refused missing
      · exact .others unfound
    · rcases course_observeRest seen with ⟨stop, rfl, ended⟩ | ⟨placeless, rfl, read⟩ |
        ⟨arn, policy, lifecycle, tags, located, rfl, read, rfl⟩
      · obtain ⟨rfl, rfl⟩ := course_unread ended rest
        rw [List.append_nil]
        exact .unread found ended
      · obtain ⟨rfl, rfl, _⟩ := attempt_throw rest
        rw [List.append_nil]
        exact .placeless found placeless read
      · have described : ∃ arn, (r.filledIn policy.toOption lifecycle.toOption tags).arn = some arn :=
          ⟨arn, located⟩
        rcases course_update described rest with ⟨same, rfl, rfl⟩ | ⟨differs, stop, sent, rfl⟩
        · exact .current found located read same
        · exact .pushed found located read differs sent

end

end Registrar
