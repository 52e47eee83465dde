import Registrar.Converge
import Registrar.Proofs.Course

/- Requests made one after the other, up to the first that does not pass. Pushing what changed comes
   down to delivering a list of requests, which is fixed before the first of them is made. -/
namespace Registrar

/-- Whether a refusal is as good as a grant: a policy that is read or removed may not be there. -/
def Request.tolerates : Request → RemoteError → Bool
  | .getPolicy _, e | .deletePolicy _, e => e.isNoPolicy
  | .getLifecycle _, e | .deleteLifecycle _, e => e.isNoLifecycle
  | _, _ => false

def Exchange.passed (x : Exchange) : Bool :=
  match x.answer with
  | .ok _ => true
  | .error e => x.request.tolerates e

def stopOf : Except Failure α → Option Failure
  | .ok _ => none
  | .error f => some f

/-- The exchanges of requests that are made in their order, and what stopped them, if anything.
    Without a limit nothing is cancelled. -/
inductive FailFast (limit : Option Nat) :
    List Request → List Exchange → Option Failure → Prop where
  | finished : FailFast limit [] [] none
  | cancelled (q : Request) (rest : List Request) (cut : limit ≠ none) :
      FailFast limit (q :: rest) [] (some (.cancelled q.operation.name))
  | refused {q : Request} {e : RemoteError} (rest : List Request) (hard : q.tolerates e = false) :
      FailFast limit (q :: rest) [⟨q, .error e⟩] (some (.remote e))
  | passed {x : Exchange} {rest : List Request} {xs : List Exchange} {stop : Option Failure}
      (through : x.passed = true) (tail : FailFast limit rest xs stop) :
      FailFast limit (x.request :: rest) (x :: xs) stop

namespace FailFast
variable {limit : Option Nat}

theorem requests_prefix {qs : List Request} {xs : List Exchange} {stop : Option Failure}
    (run : FailFast limit qs xs stop) : xs.map Exchange.request <+: qs := by
  induction run with
  | finished => exact List.nil_prefix
  | cancelled q rest cut => exact List.nil_prefix
  | refused rest hard => exact ⟨rest, rfl⟩
  | passed through tail ih =>
    obtain ⟨rest, h⟩ := ih
    exact ⟨rest, by simp [← h]⟩

theorem asked_mem {qs : List Request} {xs : List Exchange} {stop : Option Failure}
    (run : FailFast limit qs xs stop) {x : Exchange} (made : x ∈ xs) : x.request ∈ qs :=
  run.requests_prefix.subset (List.mem_map_of_mem made)

theorem no_mutations {qs : List Request} {xs : List Exchange} {stop : Option Failure}
    (run : FailFast limit qs xs stop) (keep : ∀ q ∈ qs, q.mutates = false) : mutations xs = [] := by
  refine List.filter_eq_nil_iff.mpr fun q asked => ?_
  simp [keep q (run.requests_prefix.subset asked)]

theorem passed_all {qs : List Request} {xs : List Exchange} (run : FailFast limit qs xs none) :
    ∀ x ∈ xs, x.passed = true := by
  generalize h : (none : Option Failure) = ended at run
  induction run with
  | finished => simp
  | cancelled q rest cut => cases h
  | refused rest hard => cases h
  | passed through tail ih => exact List.forall_mem_cons.mpr ⟨through, ih h⟩

theorem requests_all {qs : List Request} {xs : List Exchange} (run : FailFast limit qs xs none) :
    xs.map Exchange.request = qs := by
  generalize h : (none : Option Failure) = ended at run
  induction run with
  | finished => rfl
  | cancelled q rest cut => cases h
  | refused rest hard => cases h
  | passed through tail ih => rw [List.map_cons, ih h]

theorem append {qs rs : List Request} {xs ys : List Exchange} {stop : Option Failure}
    (first : FailFast limit qs xs none) (second : FailFast limit rs ys stop) :
    FailFast limit (qs ++ rs) (xs ++ ys) stop := by
  generalize h : (none : Option Failure) = ended at first
  induction first with
  | finished => exact second
  | cancelled q rest cut => cases h
  | refused rest hard => cases h
  | passed through tail ih => exact .passed through (ih h)

theorem last_refused {qs : List Request} {xs : List Exchange} {stop : Option Failure}
    (run : FailFast limit qs xs stop) {e : RemoteError} (h : stop = some (.remote e)) :
    ∃ ys q, xs = ys ++ [⟨q, .error e⟩] := by
  induction run with
  | finished => cases h
  | cancelled q rest cut => cases h
  | @refused q e' rest hard =>
    cases h
    exact ⟨[], q, rfl⟩
  | @passed x rest xs stop through tail ih =>
    obtain ⟨ys, q, rfl⟩ := ih h
    exact ⟨x :: ys, q, rfl⟩

theorem single_stopped {q : Request} {xs : List Exchange} {f : Failure}
    (run : FailFast limit [q] xs (some f)) :
    xs = [] ∧ limit ≠ none ∨ ∃ e, xs = [⟨q, .error e⟩] := by
  generalize h : [q] = qs at run
  cases run with
  | cancelled q rest cut => exact .inl ⟨rfl, cut⟩
  | refused rest hard =>
    cases h
    exact .inr ⟨_, rfl⟩
  | passed through tail =>
    obtain ⟨_, rfl⟩ := List.cons.inj h
    cases tail

theorem stop_cases {qs : List Request} {xs : List Exchange} {f : Failure}
    (run : FailFast limit qs xs (some f)) : (∃ op, f = .cancelled op) ∨ ∃ e, f = .remote e := by
  generalize h : some f = ended at run
  induction run with
  | finished => cases h
  | cancelled q rest cut =>
    cases h
    exact .inl ⟨_, rfl⟩
  | refused rest hard =>
    cases h
    exact .inr ⟨_, rfl⟩
  | passed through tail ih => exact ih h

end FailFast

namespace Attempt

def deliver (q : Request) : Attempt Unit := do
  match ← send q with
  | .ok _ => pure ()
  | .error e => if q.tolerates e then pure () else throw (.remote e)

def deliverAll : List Request → Attempt Unit
  | [] => pure ()
  | q :: rest => do
    deliver q
    deliverAll rest

theorem deliverAll_append (qs rs : List Request) :
    deliverAll (qs ++ rs) = (do deliverAll qs; deliverAll rs) := by
  induction qs with
  | nil => simp [deliverAll]
  | cons q qs ih => simp [deliverAll, ih]

theorem deliverAll_singleton (q : Request) : deliverAll [q] = deliver q := by
  simp [deliverAll]

end Attempt

section
variable {σ : Type} {remote : Remote σ} {limit : Option Nat} {made : Nat} {s t : σ}
  {xs : List Exchange} {r : Except Failure Unit}

theorem course_answer {α : Type} {q : Request} {f : Except RemoteError q.Reply → Attempt α}
    {value : Except RemoteError q.Reply → α} {r : Except Failure α}
    (onPass : ∀ answer, Exchange.passed ⟨q, answer⟩ = true → f answer = pure (value answer))
    (onHard : ∀ e, q.tolerates e = false → f (.error e) = throw (.remote e))
    (course : AttemptCourse remote limit (Attempt.send q >>= f) made s xs r t) :
    (∃ stop, r = .error stop ∧ ∀ rest, FailFast limit (q :: rest) xs (some stop)) ∨
      ∃ answer, xs = [⟨q, answer⟩] ∧ Exchange.passed ⟨q, answer⟩ = true ∧
        r = .ok (value answer) := by
  rcases attempt_answer course with ⟨cut, rfl, rfl, _⟩ | ⟨_, answer, u, ys, _, rest, rfl⟩
  · exact .inl ⟨_, rfl, fun rest => .cancelled q rest (limit_of_cancelled cut)⟩
  · by_cases through : Exchange.passed ⟨q, answer⟩ = true
    · rw [onPass answer through] at rest
      obtain ⟨rfl, h, _⟩ := attempt_pure rest
      exact .inr ⟨answer, rfl, through, h⟩
    · cases answer with
      | ok b => exact absurd rfl through
      | error e =>
        have hard : q.tolerates e = false := by simpa [Exchange.passed] using through
        rw [onHard e hard] at rest
        obtain ⟨rfl, h, _⟩ := attempt_throw rest
        exact .inl ⟨_, h, fun rest => .refused rest hard⟩

theorem course_demand {q : Request} {r : Except Failure q.Reply}
    (strict : ∀ e, q.tolerates e = false)
    (course : AttemptCourse remote limit (Attempt.demand q) made s xs r t) :
    (∃ stop, r = .error stop ∧ ∀ rest, FailFast limit (q :: rest) xs (some stop)) ∨
      ∃ b, xs = [⟨q, .ok b⟩] ∧ r = .ok b := by
  rcases attempt_answer course with ⟨cut, rfl, rfl, _⟩ | ⟨_, answer, u, ys, _, rest, rfl⟩
  · exact .inl ⟨_, rfl, fun rest => .cancelled q rest (limit_of_cancelled cut)⟩
  · cases answer with
    | ok b =>
      obtain ⟨rfl, h, _⟩ := attempt_pure rest
      exact .inr ⟨b, rfl, h⟩
    | error e =>
      obtain ⟨rfl, h, _⟩ := attempt_throw rest
      exact .inl ⟨_, h, fun rest => .refused rest (strict e)⟩

theorem course_deliver {q : Request}
    (course : AttemptCourse remote limit (Attempt.deliver q) made s xs r t) :
    (∃ stop, r = .error stop ∧ ∀ rest, FailFast limit (q :: rest) xs (some stop)) ∨
      ∃ answer, xs = [⟨q, answer⟩] ∧ Exchange.passed ⟨q, answer⟩ = true ∧ r = .ok () := by
  refine course_answer (fun answer through => ?_) (fun e hard => ?_) course
  · cases answer with
    | ok b => rfl
    | error e => exact if_pos through
  · simp [hard]

theorem failFast_of_course {qs : List Request}
    (course : AttemptCourse remote limit (Attempt.deliverAll qs) made s xs r t) :
    FailFast limit qs xs (stopOf r) := by
  induction qs generalizing made s xs with
  | nil =>
    obtain ⟨rfl, rfl, rfl⟩ := attempt_pure course
    exact .finished
  | cons q qs ih =>
    rcases attempt_bind course with ⟨f, first, rfl⟩ | ⟨_, ys, u, zs, first, rest, rfl⟩
    · rcases course_deliver first with ⟨stop, h, ended⟩ | ⟨_, _, _, h⟩
      · cases h
        exact ended qs
      · cases h
    · rcases course_deliver first with ⟨_, h, _⟩ | ⟨answer, rfl, through, _⟩
      · cases h
      · exact .passed (x := ⟨q, answer⟩) through (ih rest)

end

def Field.requests (settings : Settings) (desired : Snapshot) (arn : String) (old : List Tag) :
    Field → List Request
  | .scanning => [.putScanning desired.target (desired.spec.scansOnPush settings)]
  | .mutability => [.putMutability desired.target (desired.spec.effectiveMutability settings)]
  | .lifecyclePolicy =>
    match nonEmptyText desired.spec.lifecyclePolicy with
    | some text => [.putLifecycle desired.target text]
    | none => [.deleteLifecycle desired.target]
  | .policy =>
    match nonEmptyText desired.spec.policy with
    | some text => [.setPolicy desired.target text]
    | none => [.deletePolicy desired.target]
  | .tags =>
    let delta := TagDelta.between old desired.spec.tags
    (if delta.removed ≠ [] then [.untag arn delta.removed] else []) ++
      if delta.upserts ≠ [] then [.tag arn delta.upserts] else []
  | .encryption => []

def ChangeSet.plan (settings : Settings) (desired latest : Snapshot) (changes : ChangeSet) :
    List Request :=
  (Field.pushed.filter changes.differsAt).flatMap
    (Field.requests settings desired (textOrEmpty (latest.arn.or desired.arn)) latest.spec.tags)

namespace Attempt

theorem silent_answer {q : Request} {f : Except RemoteError q.Reply → Attempt Unit}
    (onGrant : ∀ b, silent (f (.ok b)) = pure ())
    (onRefusal : ∀ e, silent (f (.error e)) =
      if q.tolerates e then pure () else throw (.remote e)) :
    silent (send q >>= f) = silent (deliver q) := by
  rw [deliver, silent_bind, silent_bind]
  refine congrArg _ (funext fun answer => ?_)
  cases answer with
  | ok b => exact onGrant b
  | error e =>
    rw [onRefusal]
    dsimp only
    split <;> rfl

theorem silent_demand {q : Request} (strict : ∀ e, q.tolerates e = false) (e : Event) :
    silent (do let _ ← demand q; tell e) = silent (deliver q) := by
  rw [demand, bind_assoc]
  refine silent_answer (fun _ => rfl) fun e => ?_
  rw [strict]
  rfl

theorem silent_demand_bind {q : Request} (strict : ∀ e, q.tolerates e = false) (e : Event)
    (rest : Attempt α) : silent (do let _ ← demand q; tell e; rest) =
      (do silent (deliver q); silent rest) := by
  rw [← silent_demand strict e, ← silent_bind, bind_assoc]

variable (settings : Settings) (arn : String) (old : List Tag)

theorem silent_pushLifecycle (desired : Snapshot) : silent (pushLifecycle desired) =
    silent (deliverAll (Field.requests settings desired arn old .lifecyclePolicy)) := by
  cases stated : nonEmptyText desired.spec.lifecyclePolicy with
  | some text =>
    simp only [pushLifecycle, Field.requests, stated, deliverAll_singleton]
    exact silent_demand (fun _ => rfl) _
  | none =>
    simp only [pushLifecycle, Field.requests, stated, deliverAll_singleton]
    exact silent_answer (fun _ => rfl) fun e => by cases e <;> rfl

theorem silent_pushPolicy (desired : Snapshot) : silent (pushPolicy desired) =
    silent (deliverAll (Field.requests settings desired arn old .policy)) := by
  cases stated : nonEmptyText desired.spec.policy with
  | some text =>
    simp only [pushPolicy, Field.requests, stated, deliverAll_singleton]
    exact silent_demand (fun _ => rfl) _
  | none =>
    simp only [pushPolicy, Field.requests, stated, deliverAll_singleton]
    exact silent_answer (fun _ => rfl) fun e => by cases e <;> rfl

variable {arn}

theorem silent_pushTags {desired latest : Snapshot} (known : latest.arn.or desired.arn = some arn) :
    silent (pushTags desired latest) =
      silent (deliverAll (Field.requests settings desired arn latest.spec.tags .tags)) := by
  simp only [pushTags, known, Field.requests, deliverAll_append, silent_bind]
  split
  · rw [silent_demand_bind (fun _ => rfl), deliverAll_singleton]
    split
    · rw [silent_demand (fun _ => rfl), deliverAll_singleton]
    · rfl
  · split
    · rw [silent_demand (fun _ => rfl), deliverAll_singleton]
      rfl
    · rfl

variable {old}

theorem silent_push (f : Field) {desired latest : Snapshot}
    (known : f = .tags → ∃ arn, latest.arn.or desired.arn = some arn) :
    silent (push settings desired latest f) =
      silent (deliverAll (Field.requests settings desired
        (textOrEmpty (latest.arn.or desired.arn)) latest.spec.tags f)) := by
  cases f with
  | scanning =>
    rw [Field.requests, deliverAll_singleton]
    exact silent_demand (fun _ => rfl) _
  | mutability =>
    rw [Field.requests, deliverAll_singleton]
    exact silent_demand (fun _ => rfl) _
  | encryption => rfl
  | lifecyclePolicy => exact silent_pushLifecycle settings _ _ desired
  | policy => exact silent_pushPolicy settings _ _ desired
  | tags =>
    obtain ⟨arn, h⟩ := known rfl
    rw [h]
    exact silent_pushTags settings h

theorem silent_pushAll {desired latest : Snapshot} {changes : ChangeSet} (fs : List Field)
    (known : .tags ∈ fs → changes.differsAt .tags = true →
      ∃ arn, latest.arn.or desired.arn = some arn) :
    silent (pushAll settings desired latest changes fs) =
      silent (deliverAll ((fs.filter changes.differsAt).flatMap (Field.requests settings desired
        (textOrEmpty (latest.arn.or desired.arn)) latest.spec.tags))) := by
  induction fs with
  | nil => rfl
  | cons f fs ih =>
    have ih := ih fun later => known (List.mem_cons_of_mem f later)
    cases differs : changes.differsAt f with
    | true =>
      have pushed := @silent_push settings f desired latest fun h => by
        subst h
        exact known List.mem_cons_self differs
      simp only [pushAll, differs, if_true, List.filter_cons_of_pos, List.flatMap_cons,
        deliverAll_append, silent_bind, silent_tell, pure_bind, pushed, ih]
    | false =>
      simp only [pushAll, differs, Bool.false_eq_true, if_false, List.filter_cons, ih]

theorem silent_converge {desired latest : Snapshot} {changes : ChangeSet}
    (known : changes.differsAt .tags = true → ∃ arn, latest.arn.or desired.arn = some arn) :
    silent (converge settings desired latest changes) =
      silent (do deliverAll (changes.plan settings desired latest); pure desired) := by
  have pushed := silent_pushAll settings Field.pushed fun _ => known
  simp only [converge]
  split
  · simp only [silent_bind, silent_tell, pure_bind, pushed, ChangeSet.plan]
  · simp only [silent_bind, pushed, ChangeSet.plan]

end Attempt

end Registrar
