import Registrar.Pass

/- What a run of a pass asked and how it was answered. A course relates a pass, the requests made
   before it, and the state it starts in to its exchanges, its result and the state it leaves. Every
   run is a course, so that a fact about all courses holds whatever the remote answers and whenever
   the pass is cancelled. -/
namespace Registrar

structure Exchange where
  request : Request
  answer : Except RemoteError request.Reply

namespace Exchange

def granted (x : Exchange) : Bool :=
  match x.answer with
  | .ok _ => true
  | .error _ => false

end Exchange

def mutations (xs : List Exchange) : List Request :=
  (xs.map Exchange.request).filter Request.mutates

def grantedMutations (xs : List Exchange) : List Request := mutations (xs.filter Exchange.granted)

theorem mutations_cons_of_kept {x : Exchange} (kept : x.request.mutates = false)
    (xs : List Exchange) : mutations (x :: xs) = mutations xs := by
  simp [mutations, kept]

theorem grantedMutations_cons_of_kept {x : Exchange} (kept : x.request.mutates = false)
    (xs : List Exchange) : grantedMutations (x :: xs) = grantedMutations xs := by
  rw [grantedMutations, List.filter_cons]
  split
  · exact mutations_cons_of_kept kept _
  · rfl

theorem grantedMutations_sublist (xs : List Exchange) :
    (grantedMutations xs).Sublist (mutations xs) :=
  (List.filter_sublist.map Exchange.request).filter Request.mutates

theorem limit_of_cancelled {limit : Option Nat} {made : Nat}
    (cut : cancelledAfter limit made = true) : limit ≠ none := by
  rintro rfl
  cases cut

namespace Pass

theorem run_cancelled {remote : Remote σ} {limit : Option Nat} {q : Request}
    {next : Answer q.Reply → Pass α} {made : Nat} {s : σ}
    (cut : cancelledAfter limit made = true) :
    (Pass.ask q next).run remote limit made s = (next .cancelled).run remote limit made s := by
  simp [run, cut]

theorem run_refused {remote : Remote σ} {limit : Option Nat} {q : Request}
    {next : Answer q.Reply → Pass α} {made : Nat} {s u : σ} {e : RemoteError}
    (live : cancelledAfter limit made = false) (answer : remote.answer s q = (.error e, u)) :
    (Pass.ask q next).run remote limit made s =
      let t := (next (.refused e)).run remote limit (made + 1) u
      { t with calls := q :: t.calls } := by
  simp [run, live, answer]

theorem run_granted {remote : Remote σ} {limit : Option Nat} {q : Request}
    {next : Answer q.Reply → Pass α} {made : Nat} {s u : σ} {b : q.Reply}
    (live : cancelledAfter limit made = false) (answer : remote.answer s q = (.ok b, u)) :
    (Pass.ask q next).run remote limit made s =
      let t := (next (.granted b)).run remote limit (made + 1) u
      { t with calls := q :: t.calls } := by
  simp [run, live, answer]

def exchanges (remote : Remote σ) (limit : Option Nat) : Pass α → Nat → σ → List Exchange
  | .done _, _, _ => []
  | .note _ next, made, s => exchanges remote limit next made s
  | .ask q next, made, s =>
    if cancelledAfter limit made then exchanges remote limit (next .cancelled) made s
    else
      match remote.answer s q with
      | (.ok b, s) => ⟨q, .ok b⟩ :: exchanges remote limit (next (.granted b)) (made + 1) s
      | (.error e, s) => ⟨q, .error e⟩ :: exchanges remote limit (next (.refused e)) (made + 1) s

theorem exchanges_requests (remote : Remote σ) (limit : Option Nat) (p : Pass α) (made : Nat)
    (s : σ) : (p.exchanges remote limit made s).map Exchange.request =
      (p.run remote limit made s).calls := by
  induction p generalizing made s with
  | done a => rfl
  | note e next ih => exact ih made s
  | ask q next ih =>
    simp only [exchanges]
    split
    · rw [run_cancelled ‹_›]
      exact ih _ made s
    · rename_i live
      have live : cancelledAfter limit made = false := by simpa using live
      split <;> rename_i answer
      · rw [run_granted live answer, List.map_cons, ih]
      · rw [run_refused live answer, List.map_cons, ih]

end Pass

def Attempt.exchanges (remote : Remote σ) (limit : Option Nat) (a : Attempt α) (s : σ) :
    List Exchange :=
  Pass.exchanges remote limit (ExceptT.run a) 0 s

theorem Attempt.exchanges_requests (remote : Remote σ) (limit : Option Nat) (a : Attempt α)
    (s : σ) : (a.exchanges remote limit s).map Exchange.request = (a.run remote limit s).calls :=
  Pass.exchanges_requests remote limit _ 0 s

section
variable (remote : Remote σ) (limit : Option Nat)

theorem Pass.run_bind_done (p : Pass α) (g : α → β) (made : Nat) (s : σ) :
    (p.bind fun a => .done (g a)).run remote limit made s =
      let t := p.run remote limit made s
      ⟨g t.result, t.calls, t.events, t.state⟩ := by
  induction p generalizing made s with
  | done a => rfl
  | note e next ih => simp only [bind, run, ih]
  | ask q next ih =>
    rw [bind]
    cases cut : cancelledAfter limit made with
    | true => rw [run_cancelled cut, run_cancelled cut, ih]
    | false =>
      rcases answer : remote.answer s q with ⟨e | b, u⟩
      · rw [run_refused cut answer, run_refused cut answer, ih]
      · rw [run_granted cut answer, run_granted cut answer, ih]

theorem Pass.exchanges_bind_done (p : Pass α) (g : α → β) (made : Nat) (s : σ) :
    (p.bind fun a => .done (g a)).exchanges remote limit made s =
      p.exchanges remote limit made s := by
  induction p generalizing made s with
  | done a => rfl
  | note e next ih => exact ih made s
  | ask q next ih => simp only [bind, exchanges, ih]

theorem Attempt.run_map_eq (f : α → β) (a : Attempt α) :
    ExceptT.run (f <$> a) = Pass.bind (ExceptT.run a) fun r => .done (r.map f) := by
  refine congrArg (Pass.bind _) (funext fun r => ?_)
  cases r <;> rfl

theorem Attempt.run_map (f : α → β) (a : Attempt α) (s : σ) :
    (f <$> a).run remote limit s =
      let t := a.run remote limit s
      ⟨t.result.map f, t.calls, t.events, t.state⟩ := by
  rw [Attempt.run, run_map_eq, Pass.run_bind_done, Attempt.run]

theorem Attempt.exchanges_map (f : α → β) (a : Attempt α) (s : σ) :
    (f <$> a).exchanges remote limit s = a.exchanges remote limit s := by
  rw [Attempt.exchanges, run_map_eq, Pass.exchanges_bind_done, Attempt.exchanges]

end

inductive Course (remote : Remote σ) (limit : Option Nat) {α : Type} :
    Pass α → Nat → σ → List Exchange → α → σ → Prop where
  | done (a : α) (made : Nat) (s : σ) : Course remote limit (.done a) made s [] a s
  | note {e : Event} {next : Pass α} {made : Nat} {s t : σ} {xs : List Exchange} {a : α}
      (rest : Course remote limit next made s xs a t) :
      Course remote limit (.note e next) made s xs a t
  | cancelled {q : Request} {next : Answer q.Reply → Pass α} {made : Nat} {s t : σ}
      {xs : List Exchange} {a : α} (cut : cancelledAfter limit made = true)
      (rest : Course remote limit (next .cancelled) made s xs a t) :
      Course remote limit (.ask q next) made s xs a t
  | refused {q : Request} {next : Answer q.Reply → Pass α} {made : Nat} {s u t : σ}
      {e : RemoteError} {xs : List Exchange} {a : α} (live : cancelledAfter limit made = false)
      (answer : remote.answer s q = (.error e, u))
      (rest : Course remote limit (next (.refused e)) (made + 1) u xs a t) :
      Course remote limit (.ask q next) made s (⟨q, .error e⟩ :: xs) a t
  | granted {q : Request} {next : Answer q.Reply → Pass α} {made : Nat} {s u t : σ}
      {b : q.Reply} {xs : List Exchange} {a : α} (live : cancelledAfter limit made = false)
      (answer : remote.answer s q = (.ok b, u))
      (rest : Course remote limit (next (.granted b)) (made + 1) u xs a t) :
      Course remote limit (.ask q next) made s (⟨q, .ok b⟩ :: xs) a t

section
variable {σ α β : Type} {remote : Remote σ} {limit : Option Nat} {made : Nat} {s t : σ}
  {xs : List Exchange}

theorem course_of_run (p : Pass α) (made : Nat) (s : σ) :
    Course remote limit p made s (p.exchanges remote limit made s)
      (p.run remote limit made s).result (p.run remote limit made s).state := by
  induction p generalizing made s with
  | done a => exact .done a made s
  | note e next ih => exact .note (ih made s)
  | ask q next ih =>
    simp only [Pass.exchanges]
    split
    · rw [Pass.run_cancelled ‹_›]
      exact .cancelled ‹_› (ih _ made s)
    · rename_i live
      have live : cancelledAfter limit made = false := by simpa using live
      split <;> rename_i answer
      · rw [Pass.run_granted live answer]
        exact .granted live answer (ih _ _ _)
      · rw [Pass.run_refused live answer]
        exact .refused live answer (ih _ _ _)

/-- The remote, starting from one state, gives the answers in the exchanges and ends in another. -/
inductive Replays (remote : Remote σ) : σ → List Exchange → σ → Prop where
  | nil (s : σ) : Replays remote s [] s
  | cons {s u t : σ} {x : Exchange} {xs : List Exchange}
      (answer : remote.answer s x.request = (x.answer, u)) (rest : Replays remote u xs t) :
      Replays remote s (x :: xs) t

theorem course_replays {p : Pass α} {a : α} (course : Course remote limit p made s xs a t) :
    Replays remote s xs t := by
  induction course with
  | done a made s => exact .nil s
  | note rest ih => exact ih
  | cancelled cut rest ih => exact ih
  | refused live answer rest ih => exact .cons answer ih
  | granted live answer rest ih => exact .cons answer ih

theorem course_bind {p : Pass α} {f : α → Pass β} {b : β}
    (course : Course remote limit (p.bind f) made s xs b t) :
    ∃ ys a u zs, Course remote limit p made s ys a u ∧
      Course remote limit (f a) (made + ys.length) u zs b t ∧ xs = ys ++ zs := by
  induction p generalizing made s xs with
  | done a => exact ⟨[], a, s, xs, .done a made s, course, rfl⟩
  | note e next ih =>
    cases course with
    | note rest =>
      obtain ⟨ys, a, u, zs, first, second, rfl⟩ := ih rest
      exact ⟨ys, a, u, zs, .note first, second, rfl⟩
  | ask q next ih =>
    cases course with
    | cancelled cut rest =>
      obtain ⟨ys, a, u, zs, first, second, rfl⟩ := ih _ rest
      exact ⟨ys, a, u, zs, .cancelled cut first, second, rfl⟩
    -- What the first part has made counts towards the limit of the second.
    | refused live answer rest =>
      obtain ⟨ys, a, u, zs, first, second, rfl⟩ := ih _ rest
      refine ⟨_ :: ys, a, u, zs, .refused live answer first, ?_, rfl⟩
      simpa [Nat.add_assoc, Nat.add_comm 1] using second
    | granted live answer rest =>
      obtain ⟨ys, a, u, zs, first, second, rfl⟩ := ih _ rest
      refine ⟨_ :: ys, a, u, zs, .granted live answer first, ?_, rfl⟩
      simpa [Nat.add_assoc, Nat.add_comm 1] using second

end

abbrev AttemptCourse (remote : Remote σ) (limit : Option Nat) (a : Attempt α) (made : Nat) (s : σ)
    (xs : List Exchange) (r : Except Failure α) (t : σ) : Prop :=
  Course remote limit (ExceptT.run a) made s xs r t

theorem course_of_attempt (remote : Remote σ) (limit : Option Nat) (a : Attempt α) (s : σ) :
    AttemptCourse remote limit a 0 s (a.exchanges remote limit s) (a.run remote limit s).result
      (a.run remote limit s).state :=
  course_of_run _ 0 s

section
variable {σ α β : Type} {remote : Remote σ} {limit : Option Nat} {made : Nat} {s t : σ}
  {xs : List Exchange}

theorem attempt_pure {a : α} {r : Except Failure α}
    (course : AttemptCourse remote limit (pure a) made s xs r t) :
    xs = [] ∧ r = .ok a ∧ t = s := by
  cases course
  exact ⟨rfl, rfl, rfl⟩

theorem attempt_throw {f : Failure} {r : Except Failure α}
    (course : AttemptCourse remote limit (throw f) made s xs r t) :
    xs = [] ∧ r = .error f ∧ t = s := by
  cases course
  exact ⟨rfl, rfl, rfl⟩

theorem attempt_bind {a : Attempt α} {f : α → Attempt β} {r : Except Failure β}
    (course : AttemptCourse remote limit (a >>= f) made s xs r t) :
    (∃ e, AttemptCourse remote limit a made s xs (.error e) t ∧ r = .error e) ∨
      ∃ x ys u zs, AttemptCourse remote limit a made s ys (.ok x) u ∧
        AttemptCourse remote limit (f x) (made + ys.length) u zs r t ∧ xs = ys ++ zs := by
  obtain ⟨ys, x, u, zs, first, second, rfl⟩ := course_bind course
  cases x with
  | ok x => exact .inr ⟨x, ys, u, zs, first, second, rfl⟩
  | error e =>
    cases second
    rw [List.append_nil]
    exact .inl ⟨e, first, rfl⟩

theorem attempt_note {e : Event} {f : Unit → Attempt β} {r : Except Failure β}
    (course : AttemptCourse remote limit (Attempt.tell e >>= f) made s xs r t) :
    AttemptCourse remote limit (f ()) made s xs r t := by
  cases course with
  | note rest => exact rest

theorem attempt_send {q : Request} {r : Except Failure (Except RemoteError q.Reply)}
    (course : AttemptCourse remote limit (Attempt.send q) made s xs r t) :
    (cancelledAfter limit made = true ∧ xs = [] ∧ r = .error (.cancelled q.operation.name) ∧
        t = s) ∨
      cancelledAfter limit made = false ∧ ∃ answer, remote.answer s q = (answer, t) ∧
        xs = [⟨q, answer⟩] ∧ r = .ok answer := by
  cases course with
  | cancelled cut rest =>
    cases rest with
    | note rest =>
      cases rest
      exact .inl ⟨cut, rfl, rfl, rfl⟩
  | refused live answer rest =>
    cases rest
    exact .inr ⟨live, _, answer, rfl, rfl⟩
  | granted live answer rest =>
    cases rest
    exact .inr ⟨live, _, answer, rfl, rfl⟩

theorem attempt_outcome {a : Attempt α} {r : Except Failure (Except Failure α)}
    (course : AttemptCourse remote limit (Attempt.outcome a) made s xs r t) :
    ∃ x, AttemptCourse remote limit a made s xs x t ∧ r = .ok x := by
  obtain ⟨ys, x, u, zs, first, second, rfl⟩ := course_bind course
  cases second
  rw [List.append_nil]
  exact ⟨x, first, rfl⟩

theorem attempt_answer {q : Request} {f : Except RemoteError q.Reply → Attempt β}
    {r : Except Failure β}
    (course : AttemptCourse remote limit (Attempt.send q >>= f) made s xs r t) :
    (cancelledAfter limit made = true ∧ xs = [] ∧ r = .error (.cancelled q.operation.name) ∧
        t = s) ∨
      cancelledAfter limit made = false ∧ ∃ answer u ys, remote.answer s q = (answer, u) ∧
        AttemptCourse remote limit (f answer) (made + 1) u ys r t ∧ xs = ⟨q, answer⟩ :: ys := by
  rcases attempt_bind course with ⟨e, sent, rfl⟩ | ⟨answer, ys, u, zs, sent, rest, rfl⟩
  · rcases attempt_send sent with ⟨cut, rfl, h, rfl⟩ | ⟨_, _, _, _, h⟩
    · cases h
      exact .inl ⟨cut, rfl, rfl, rfl⟩
    · cases h
  · rcases attempt_send sent with ⟨_, _, h, _⟩ | ⟨live, answer, answered, rfl, h⟩
    · cases h
    · cases h
      exact .inr ⟨live, _, u, zs, answered, rest, rfl⟩

end

def Pass.silent : Pass α → Pass α
  | .done a => .done a
  | .note _ next => silent next
  | .ask q next => .ask q fun a => silent (next a)

theorem Pass.silent_bind (p : Pass α) (f : α → Pass β) :
    (p.bind f).silent = p.silent.bind fun a => (f a).silent := by
  induction p with
  | done a => rfl
  | note e next ih => exact ih
  | ask q next ih => exact congrArg (Pass.ask q) (funext ih)

theorem course_silent {remote : Remote σ} {limit : Option Nat} {p : Pass α} {made : Nat} {s t : σ}
    {xs : List Exchange} {a : α} (course : Course remote limit p made s xs a t) :
    Course remote limit p.silent made s xs a t := by
  induction course with
  | done a made s => exact .done a made s
  | note rest ih => exact ih
  | cancelled cut rest ih => exact .cancelled cut ih
  | refused live answer rest ih => exact .refused live answer ih
  | granted live answer rest ih => exact .granted live answer ih

theorem course_of_silent {remote : Remote σ} {limit : Option Nat} {p : Pass α} {made : Nat}
    {s t : σ} {xs : List Exchange} {a : α}
    (course : Course remote limit p.silent made s xs a t) : Course remote limit p made s xs a t := by
  induction p generalizing made s xs with
  | done a => exact course
  | note e next ih => exact .note (ih course)
  | ask q next ih =>
    cases course with
    | cancelled cut rest => exact .cancelled cut (ih _ rest)
    | refused live answer rest => exact .refused live answer (ih _ rest)
    | granted live answer rest => exact .granted live answer (ih _ rest)

namespace Attempt

def silent (a : Attempt α) : Attempt α := ExceptT.mk (Pass.silent (ExceptT.run a))

theorem silent_tell (e : Event) : silent (tell e) = pure () := rfl

theorem silent_bind (a : Attempt α) (f : α → Attempt β) :
    silent (a >>= f) = silent a >>= fun x => silent (f x) := by
  refine (Pass.silent_bind (ExceptT.run a) _).trans (congrArg (Pass.bind _) (funext fun x => ?_))
  cases x <;> rfl

/-- Attempts that are the same but for what they tell their logs take the same courses. -/
theorem course_congr {a b : Attempt α} (same : silent a = silent b) {remote : Remote σ}
    {limit : Option Nat} {made : Nat} {s t : σ} {xs : List Exchange} {r : Except Failure α}
    (course : AttemptCourse remote limit a made s xs r t) :
    AttemptCourse remote limit b made s xs r t := by
  have quiet : AttemptCourse remote limit (silent a) made s xs r t := course_silent course
  rw [same] at quiet
  exact course_of_silent quiet

end Attempt

end Registrar
