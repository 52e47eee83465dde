import Registrar.Proofs.Protocol
import Registrar.Proofs.Settling
import Registrar.Session

/- A pass that is cancelled makes the first requests of the pass that is not, up to the limit, and
   leaves what these leave. The request that it does not make any more is named in its result. -/
namespace Registrar

def Remote.after (remote : Remote σ) (s : σ) (qs : List Request) : σ :=
  qs.foldl (fun s q => (remote.answer s q).2) s

theorem replays_after {remote : Remote σ} {s t : σ} {xs : List Exchange}
    (replays : Replays remote s xs t) : t = remote.after s (xs.map Exchange.request) := by
  induction replays with
  | nil s => rfl
  | @cons s u t x xs answer rest ih =>
    have step : (remote.answer s x.request).2 = u := congrArg Prod.snd answer
    rw [ih, List.map_cons, Remote.after, Remote.after, List.foldl_cons, step]

theorem cancelledAfter_some {k made : Nat} : cancelledAfter (some k) made = decide (k ≤ made) := rfl

theorem cancelledAfter_none (made : Nat) : cancelledAfter none made = false := rfl

namespace Pass

def abandoned : Pass α → α
  | .done a => a
  | .note _ next => abandoned next
  | .ask _ next => abandoned (next .cancelled)

theorem abandoned_bind (p : Pass α) (f : α → Pass β) :
    (p.bind f).abandoned = (f p.abandoned).abandoned := by
  induction p with
  | done a => rfl
  | note e next ih => exact ih
  | ask q next ih => exact ih .cancelled

section
variable {σ α : Type} {remote : Remote σ} {limit : Option Nat} {made k : Nat} {s : σ}

theorem run_abandoned (cut : cancelledAfter limit made = true) (p : Pass α) :
    (p.run remote limit made s).result = p.abandoned := by
  induction p with
  | done a => rfl
  | note e next ih => exact ih
  | ask q next ih =>
    rw [run_cancelled cut, ih]
    rfl

theorem exchanges_abandoned (cut : cancelledAfter limit made = true) (p : Pass α) :
    p.exchanges remote limit made s = [] := by
  induction p with
  | done a => rfl
  | note e next ih => exact ih
  | ask q next ih =>
    rw [exchanges, if_pos cut]
    exact ih .cancelled

theorem exchanges_refused {q : Request} {next : Answer q.Reply → Pass α} {u : σ} {e : RemoteError}
    (live : cancelledAfter limit made = false) (answer : remote.answer s q = (.error e, u)) :
    (Pass.ask q next).exchanges remote limit made s =
      ⟨q, .error e⟩ :: (next (.refused e)).exchanges remote limit (made + 1) u := by
  simp [exchanges, live, answer]

theorem exchanges_granted {q : Request} {next : Answer q.Reply → Pass α} {u : σ} {b : q.Reply}
    (live : cancelledAfter limit made = false) (answer : remote.answer s q = (.ok b, u)) :
    (Pass.ask q next).exchanges remote limit made s =
      ⟨q, .ok b⟩ :: (next (.granted b)).exchanges remote limit (made + 1) u := by
  simp [exchanges, live, answer]

theorem exchanges_ask {q : Request} {next : Answer q.Reply → Pass α}
    (live : cancelledAfter limit made = false) :
    ∃ answer rest, (Pass.ask q next).exchanges remote limit made s = ⟨q, answer⟩ :: rest := by
  rcases answer : remote.answer s q with ⟨e | b, u⟩
  · exact ⟨_, _, exchanges_refused live answer⟩
  · exact ⟨_, _, exchanges_granted live answer⟩

theorem exchanges_cut (p : Pass α) (k made : Nat) (s : σ) :
    p.exchanges remote (some k) made s = (p.exchanges remote none made s).take (k - made) := by
  induction p generalizing made s with
  | done a => simp [exchanges]
  | note e next ih => exact ih made s
  | ask q next ih =>
    by_cases reached : k ≤ made
    · have spent : k - made = 0 := by omega
      rw [exchanges_abandoned (by simpa [cancelledAfter_some] using reached), spent, List.take_zero]
    · have live : cancelledAfter (some k) made = false := by
        simpa [cancelledAfter_some] using reached
      have left : k - made = k - (made + 1) + 1 := by omega
      rcases answer : remote.answer s q with ⟨e | b, u⟩
      · rw [exchanges_refused live answer, exchanges_refused (cancelledAfter_none made) answer, left,
          List.take_succ_cons, ih]
      · rw [exchanges_granted live answer, exchanges_granted (cancelledAfter_none made) answer, left,
          List.take_succ_cons, ih]

end

/-- Wherever the pass may be cancelled, its result fits the operation that it does not ask for any
    more. -/
def Yields (fits : Operation → α → Prop) : Pass α → Prop
  | .done _ => True
  | .note _ next => Yields fits next
  | .ask q next => fits q.operation (next .cancelled).abandoned ∧
      (∀ e, Yields fits (next (.refused e))) ∧ ∀ b, Yields fits (next (.granted b))

theorem Yields.bind {first : Operation → α → Prop} {fits : Operation → β → Prop} {p : Pass α}
    {f : α → Pass β} (yields : p.Yields first)
    (carried : ∀ op a, first op a → fits op (f a).abandoned) (rest : ∀ a, (f a).Yields fits) :
    (p.bind f).Yields fits := by
  induction p with
  | done a => exact rest a
  | note e next ih => exact ih yields
  | ask q next ih =>
    obtain ⟨here, refused, granted⟩ := yields
    refine ⟨?_, fun e => ih _ (refused e), fun b => ih _ (granted b)⟩
    rw [abandoned_bind]
    exact carried _ _ here

theorem Yields.mono {first fits : Operation → α → Prop} {p : Pass α} (yields : p.Yields first)
    (weaker : ∀ op a, first op a → fits op a) : p.Yields fits := by
  have bound := yields.bind (f := .done) weaker fun _ => trivial
  rwa [bind_done] at bound

theorem run_cut {remote : Remote σ} {fits : Operation → α → Prop} {p : Pass α}
    (yields : p.Yields fits) (k made : Nat) (s : σ) :
    match (p.exchanges remote none made s)[k - made]? with
    | some x => fits x.operation (p.run remote (some k) made s).result
    | none =>
      (p.run remote (some k) made s).result = (p.run remote none made s).result := by
  induction p generalizing made s with
  | done a => simp [exchanges, run]
  | note e next ih => exact ih yields made s
  | ask q next ih =>
    obtain ⟨here, refused, granted⟩ := yields
    by_cases reached : k ≤ made
    · have cut : cancelledAfter (some k) made = true := by simpa [cancelledAfter_some] using reached
      have spent : k - made = 0 := by omega
      have result : ((Pass.ask q next).run remote (some k) made s).result =
          (Pass.ask q next).abandoned := run_abandoned cut _
      obtain ⟨answer, rest, asked⟩ := @exchanges_ask _ _ remote none made s q next
        (cancelledAfter_none made)
      rw [asked, spent, List.getElem?_cons_zero, result]
      exact here
    · have live : cancelledAfter (some k) made = false := by
        simpa [cancelledAfter_some] using reached
      have left : k - made = k - (made + 1) + 1 := by omega
      rcases answer : remote.answer s q with ⟨e | b, u⟩
      · rw [exchanges_refused (cancelledAfter_none made) answer, left, List.getElem?_cons_succ,
          run_refused live answer, run_refused (cancelledAfter_none made) answer]
        exact ih _ (refused e) _ _
      · rw [exchanges_granted (cancelledAfter_none made) answer, left, List.getElem?_cons_succ,
          run_granted live answer, run_granted (cancelledAfter_none made) answer]
        exact ih _ (granted b) _ _

end Pass

namespace Attempt

def Heeds (a : Attempt α) : Prop :=
  Pass.Yields (fun op r => r = .error (.cancelled op.name)) (ExceptT.run a)

theorem heeds_pure (a : α) : Heeds (pure a) := trivial

theorem heeds_throw (f : Failure) : Heeds (throw f : Attempt α) := trivial

theorem heeds_tell (e : Event) : Heeds (tell e) := trivial

theorem heeds_send (q : Request) : Heeds (send q) := ⟨rfl, fun _ => trivial, fun _ => trivial⟩

theorem Heeds.bind {a : Attempt α} {f : α → Attempt β} (first : Heeds a)
    (rest : ∀ x, Heeds (f x)) : Heeds (a >>= f) := by
  refine Pass.Yields.bind first ?_ ?_
  · rintro op _ rfl
    rfl
  · intro r
    cases r with
    | ok x => exact rest x
    | error e => trivial

theorem Heeds.note {a : Attempt α} (heeds : Heeds a) (e : Event) :
    Heeds (do tell e; a) := (heeds_tell e).bind fun _ => heeds

theorem heeds_answer {q : Request} {f : Except RemoteError q.Reply → Attempt β}
    (granted : ∀ b, Heeds (f (.ok b))) (refused : ∀ e, Heeds (f (.error e))) :
    Heeds (send q >>= f) := by
  refine (heeds_send q).bind fun answer => ?_
  cases answer with
  | ok b => exact granted b
  | error e => exact refused e

theorem Heeds.orThrow {a : Attempt α} {p : Prop} [Decidable p] (heeds : Heeds a) (f : Failure) :
    Heeds (if p then a else throw f) := by
  split
  · exact heeds
  · exact heeds_throw f

theorem heeds_demand (q : Request) : Heeds (demand q) :=
  heeds_answer heeds_pure fun _ => heeds_throw _

theorem Heeds.caught {a : Attempt α} {f : Except Failure α → Attempt β}
    {fits : Operation → Except Failure β → Prop} (heeds : Heeds a)
    (caught : ∀ op, fits op (ExceptT.run (f (.error (.cancelled op.name)))).abandoned)
    (rest : ∀ r, Pass.Yields fits (ExceptT.run (f r))) :
    Pass.Yields fits (ExceptT.run (outcome a >>= f)) := by
  have valued : Pass.Yields (fun op r => r = .ok (.error (.cancelled op.name)))
      (ExceptT.run (outcome a)) := by
    refine Pass.Yields.bind heeds ?_ fun _ => trivial
    rintro op _ rfl
    rfl
  refine Pass.Yields.bind valued ?_ fun r => ?_
  · rintro op _ rfl
    exact caught op
  · cases r with
    | ok r => exact rest r
    | error e => trivial

end Attempt

open Attempt

theorem heeds_observePolicy (r : Snapshot) : Heeds (observePolicy r) :=
  heeds_answer (fun _ => heeds_pure _) fun _ => (heeds_pure _).orThrow _

theorem heeds_observeLifecycle (r : Snapshot) : Heeds (observeLifecycle r) :=
  heeds_answer (fun _ => heeds_pure _) fun _ => (heeds_pure _).orThrow _

theorem heeds_observeRest (r : Snapshot) : Heeds (observeRest r) := by
  refine (heeds_observePolicy r).bind fun policy => (heeds_observeLifecycle r).bind fun lifecycle => ?_
  cases r.arn with
  | none => exact heeds_throw _
  | some arn => exact (heeds_demand _).bind fun tags => (heeds_pure _).note _

theorem heeds_observe (settings : Settings) (base : Snapshot) : Heeds (observe settings base) := by
  refine heeds_answer (fun candidates => ?_) fun e => (heeds_throw _).orThrow _
  dsimp only
  split
  · exact heeds_observeRest _
  · exact (heeds_throw _).note _
  · exact (heeds_throw _).note _

theorem heeds_pushLifecycle (desired : Snapshot) : Heeds (pushLifecycle desired) := by
  rw [pushLifecycle]
  split
  · exact (heeds_demand _).bind fun _ => heeds_tell _
  · exact heeds_answer (fun _ => heeds_tell _) fun _ => (heeds_tell _).orThrow _

theorem heeds_pushPolicy (desired : Snapshot) : Heeds (pushPolicy desired) := by
  rw [pushPolicy]
  split
  · exact (heeds_demand _).bind fun _ => heeds_tell _
  · exact heeds_answer (fun _ => heeds_tell _) fun _ => (heeds_tell _).orThrow _

theorem heeds_pushTags (desired latest : Snapshot) : Heeds (pushTags desired latest) := by
  rw [pushTags]
  dsimp only
  split
  · exact heeds_throw _
  · have tagging (arn : String) (tags : List Tag) : Heeds (do
        demand (.tag arn tags)
        tell (.tagsApplied desired.name tags.length)) :=
      (heeds_demand _).bind fun _ => heeds_tell _
    split
    · refine (heeds_demand _).bind fun _ => Heeds.note ?_ _
      split
      · exact tagging _ _
      · exact heeds_pure _
    · split
      · exact tagging _ _
      · exact heeds_pure _

theorem heeds_push (settings : Settings) (desired latest : Snapshot) (f : Field) :
    Heeds (push settings desired latest f) := by
  cases f with
  | scanning => exact (heeds_demand _).bind fun _ => heeds_tell _
  | mutability => exact (heeds_demand _).bind fun _ => heeds_tell _
  | encryption => exact heeds_pure _
  | lifecyclePolicy => exact heeds_pushLifecycle desired
  | policy => exact heeds_pushPolicy desired
  | tags => exact heeds_pushTags desired latest

theorem heeds_pushAll (settings : Settings) (desired latest : Snapshot) (changes : ChangeSet)
    (fs : List Field) : Heeds (pushAll settings desired latest changes fs) := by
  induction fs with
  | nil => exact heeds_pure _
  | cons f fs ih =>
    rw [pushAll]
    split
    · exact ((heeds_push settings desired latest f).bind fun _ => ih).note _
    · exact ih

theorem heeds_converge (settings : Settings) (desired latest : Snapshot) (changes : ChangeSet) :
    Heeds (converge settings desired latest changes) := by
  have pushing : Heeds (do
      pushAll settings desired latest changes Field.pushed
      pure desired) :=
    (heeds_pushAll settings desired latest changes _).bind fun _ => heeds_pure _
  rw [converge]
  split
  · exact pushing.note _
  · exact pushing

theorem heeds_remove (r : Snapshot) (force : Bool) : Heeds (remove r force) := by
  refine Heeds.note ?_ _
  exact heeds_answer (fun _ => heeds_pure _) fun _ => (heeds_tell _).orThrow _

theorem heeds_update (settings : Settings) (desired observed : Snapshot) :
    Heeds (update settings desired observed) := by
  have finished : Heeds (if observed.isTerminal then do
        tell (.staysTerminal observed.name)
        pure { snapshot := observed, state := .terminal }
      else do
        tell (.inSync observed.name)
        pure { snapshot := observed.withSynced .met, state := .inSync } : Attempt Outcome) := by
    split <;> exact (heeds_pure _).note _
  rw [update]
  dsimp only
  split
  · exact Heeds.note ((heeds_converge settings desired observed _).bind fun _ => heeds_pure _) _
  · split
    · exact finished.note _
    · exact finished

def EndsEarly (settings : Settings) (desired : Snapshot) (op : Operation)
    (res : Except Failure Outcome) : Prop :=
  res = .error (.cancelled op.name) ∨ ∃ c, res =
    .ok ((desired.createdAs c settings).madeOutcome settings (some (.cancelled op.name)))

theorem create_endsEarly (settings : Settings) (desired : Snapshot) :
    Pass.Yields (EndsEarly settings desired) (ExceptT.run (create settings desired)) := by
  -- The creation itself heeds a cancellation; what follows it turns one into a pending outcome.
  change Pass.Yields _ (Pass.bind (ExceptT.run (demand (.create desired.spec.creation))) _)
  refine Pass.Yields.bind (heeds_demand _) ?_ fun reply => ?_
  · rintro op _ rfl
    exact .inl rfl
  cases reply with
  | error e => trivial
  | ok c =>
    change Pass.Yields _ (ExceptT.run (if _ then _ else _))
    split
    · trivial
    · refine (heeds_converge settings _ _ _).caught (fun op => .inr ⟨c, rfl⟩) fun sent => ?_
      cases sent <;> trivial

theorem reconcile_endsEarly (settings : Settings) (desired : Snapshot) (latest : Option Snapshot) :
    Pass.Yields (EndsEarly settings desired)
      (ExceptT.run (reconcile settings desired latest)) := by
  simp only [reconcile]
  split
  · trivial
  cases latest with
  | none => exact create_endsEarly settings desired
  | some latest =>
    dsimp only
    split
    · trivial
    · refine (heeds_observe settings _).caught (fun op => .inl rfl) fun seen => ?_
      cases seen with
      | ok observed => exact (heeds_update settings desired observed).mono fun _ _ h => .inl h
      | error f =>
        cases f with
        | notFound name => exact create_endsEarly settings desired
        | _ => trivial

section
variable {limit : Option Nat} {settings : Settings} {desired : Snapshot} {xs : List Exchange}
  {res : Except Failure Outcome}

def uncreated (xs : List Exchange) : Prop := ∀ x ∈ xs, x.operation = .create → x.granted = false

def CreationShows (settings : Settings) (desired : Snapshot) (xs : List Exchange)
    (res : Except Failure Outcome) : Prop :=
  (uncreated xs ∧ ∀ o, res = .ok o → o.state ≠ .createPending) ∨
    ∃ c stop, ⟨.create desired.spec.creation, .ok c⟩ ∈ xs ∧
      res = .ok ((desired.createdAs c settings).madeOutcome settings stop)

theorem Delivered.uncreated (delivered : Delivered limit updateRow xs res) :
    Registrar.uncreated xs := by
  intro x member created
  have chosen := delivered.operation_choice member
  rw [created] at chosen
  exact absurd chosen (by decide)

theorem Creating.shows (creation : Creating limit settings desired xs res) :
    CreationShows settings desired xs res := by
  cases creation with
  | refused ended =>
    refine .inl ⟨fun x member _ => ?_, by simp⟩
    rcases ended.single_stopped with ⟨rfl, _⟩ | ⟨e, rfl⟩
    · cases member
    · cases List.mem_singleton.mp member
      rfl
  | @made c xs stop followed => exact .inr ⟨c, stop, List.mem_cons_self, rfl⟩

theorem Reconciling.creates {latest : Option Snapshot}
    (course : Reconciling limit settings desired latest xs res) :
    (uncreated xs ∧ ∀ o, res = .ok o → o.state ≠ .createPending) ∨
      ∃ before ys, xs = before ++ ys ∧ uncreated before ∧
        Creating limit settings desired ys res := by
  cases course with
  | unnamed nameless => exact .inl ⟨by simp [uncreated], by simp⟩
  | created creation => exact .inr ⟨[], _, rfl, by simp [uncreated], creation⟩
  | blocked failed =>
    refine .inl ⟨by simp [uncreated], fun o same => ?_⟩
    cases same
    exact SyncState.noConfusion
  | @undescribed latest xs stop ended =>
    have delivered : Delivered limit updateRow xs (.error stop) :=
      ⟨_, _, _, ended, update_spells (.of_optional (by decide)), ⟨_, rfl⟩, by simp⟩
    exact .inl ⟨delivered.uncreated, by simp⟩
  | @recreated latest answer xs res absent creation =>
    refine .inr ⟨[⟨(desired.sought latest).description, answer⟩], xs, rfl, ?_, creation⟩
    intro x member created
    cases List.mem_singleton.mp member
    cases created
  | @unread latest r candidates xs stop found ended =>
    have delivered : Delivered limit updateRow
        (⟨(desired.sought latest).description, .ok candidates⟩ :: xs) (.error stop) :=
      delivered_reading ended (by simp)
    exact .inl ⟨delivered.uncreated, by simp⟩
  | @placeless latest r candidates xs found placeless read =>
    have delivered : Delivered limit updateRow
        (⟨(desired.sought latest).description, .ok candidates⟩ :: xs)
        (.error (.missingField "status.arn")) := delivered_reading read (by simp)
    exact .inl ⟨delivered.uncreated, by simp⟩
  | @current latest r candidates arn policy lifecycle tags found located read same =>
    have delivered : Delivered limit updateRow
        [⟨(desired.sought latest).description, .ok candidates⟩, ⟨.getPolicy r.target, policy⟩,
          ⟨.getLifecycle r.target, lifecycle⟩, ⟨.listTags arn, .ok tags⟩]
        (.ok (r.filledIn policy.toOption lifecycle.toOption tags).leftAlone) :=
      delivered_reading read (by simp)
    refine .inl ⟨delivered.uncreated, fun o ended => ?_⟩
    cases ended
    rw [leftAlone_state]
    split <;> exact SyncState.noConfusion
  | @pushed latest r candidates arn policy lifecycle tags xs stop found located read differs sent =>
    have delivered : Delivered limit updateRow
        (⟨(desired.sought latest).description, .ok candidates⟩ :: ([⟨.getPolicy r.target, policy⟩,
          ⟨.getLifecycle r.target, lifecycle⟩, ⟨.listTags arn, .ok tags⟩] ++ xs))
        (resultOf (desired.convergedFrom
          (r.filledIn policy.toOption lifecycle.toOption tags)) stop) :=
      delivered_update located read sent (by cases stop <;> simp [resultOf])
    refine .inl ⟨delivered.uncreated, fun o ended => ?_⟩
    cases stop with
    | none =>
      cases ended
      exact SyncState.noConfusion
    | some f => cases ended

theorem Reconciling.shows {latest : Option Snapshot}
    (course : Reconciling limit settings desired latest xs res) :
    CreationShows settings desired xs res := by
  rcases course.creates with settled | ⟨before, ys, rfl, early, creation⟩
  · exact .inl settled
  · rcases creation.shows with ⟨none, state⟩ | ⟨c, stop, member, same⟩
    · exact .inl ⟨List.forall_mem_append.mpr ⟨early, none⟩, state⟩
    · exact .inr ⟨c, stop, List.mem_append_right before member, same⟩

theorem madeOutcome_pending {r r' : Snapshot} {f : Failure} {stop : Option Failure}
    (same : r.madeOutcome settings stop = r'.madeOutcome settings (some f)) :
    r.madeOutcome settings stop = r.madeOutcome settings (some f) := by
  cases stop with
  | none => cases congrArg Outcome.state same
  | some g =>
    have message : "pending: " ++ g.message = "pending: " ++ f.message := by
      have synced := congrArg (fun o => o.snapshot.status.synced) same
      simpa [Snapshot.madeOutcome, Snapshot.withSynced, Condition.unmet] using synced
    rw [Snapshot.madeOutcome, Snapshot.madeOutcome, message]

end

/-- What a step comes to that is cancelled before it asks for an operation, with `done` behind it.
    It fails, but for a pass that has created the repository: that leaves the policies pending. -/
inductive CutShort (settings : Settings) (step : Session.Step) (done : List Exchange)
    (op : Operation) : Except Failure Session.Result → Prop where
  | failed (none : ∀ desired latest, step = .reconcile desired latest → uncreated done) :
      CutShort settings step done op (.error (.cancelled op.name))
  | pending {desired : Snapshot} {latest : Option Snapshot} {c : Candidate}
      (pass : step = .reconcile desired latest)
      (created : ⟨.create desired.spec.creation, .ok c⟩ ∈ done) :
      CutShort settings step done op (.ok (.outcome
        { snapshot := (desired.createdAs c settings).withSynced
            (.unmet ("pending: " ++ (Failure.cancelled op.name).message))
          requeueSeconds := some settings.requeueSeconds
          state := .createPending }))

section
variable {remote : Remote σ} {settings : Settings} {desired : Snapshot} {latest : Option Snapshot}

theorem Attempt.Heeds.map {a : Attempt α} (heeds : Heeds a) (f : α → β) : Heeds (f <$> a) := by
  rw [Heeds, Attempt.run_map_eq]
  refine Pass.Yields.bind heeds ?_ fun _ => trivial
  rintro op _ rfl
  rfl

theorem step_heeds {step : Session.Step} (other : ∀ desired latest, step ≠ .reconcile desired latest) :
    Heeds (step.attempt settings) := by
  cases step with
  | reconcile desired latest => exact absurd rfl (other desired latest)
  | observe base => exact (heeds_observe settings base).map _
  | converge desired latest changes => exact (heeds_converge settings desired latest _).map _
  | remove r force => exact (heeds_remove r force).bind fun _ => heeds_pure _

theorem cutShort_reconcile {limit : Option Nat} {xs : List Exchange} {res : Except Failure Outcome}
    {op : Operation} (course : Reconciling limit settings desired latest xs res)
    (early : EndsEarly settings desired op res) :
    CutShort settings (.reconcile desired latest) xs op (res.map .outcome) := by
  rcases course.shows with ⟨none, settled⟩ | ⟨c, stop, created, result⟩
  · rcases early with rfl | ⟨c, rfl⟩
    · refine .failed fun _ _ same => ?_
      cases same
      exact none
    · exact absurd rfl (settled _ rfl)
  · rcases early with rfl | ⟨c', rfl⟩
    · cases result
    · have same := madeOutcome_pending (Except.ok.inj result).symm
      rw [result, same]
      exact .pending rfl created

/-- How a step ends that is cancelled, by what it would have asked for next. -/
theorem step_cut (remote : Remote σ) (settings : Settings) (step : Session.Step) (k : Nat) (s : σ) :
    match ((step.attempt settings).exchanges remote none s)[k]? with
    | some x => CutShort settings step ((step.attempt settings).exchanges remote (some k) s)
        x.operation ((step.attempt settings).run remote (some k) s).result
    | none => ((step.attempt settings).run remote (some k) s).result =
        ((step.attempt settings).run remote none s).result := by
  by_cases pass : ∃ desired latest, step = .reconcile desired latest
  · obtain ⟨desired, latest, rfl⟩ := pass
    have result := @Pass.run_cut _ _ remote _ _ (reconcile_endsEarly settings desired latest) k 0 s
    have course := course_of_attempt remote (some k) (reconcile settings desired latest) s
    simp only [Session.Step.attempt, Attempt.run_map, Attempt.exchanges_map]
    rw [Attempt.exchanges]
    split <;> rename_i next
    · rw [Nat.sub_zero, next] at result
      exact cutShort_reconcile (reconciling_of_course course) result
    · rw [Nat.sub_zero, next] at result
      exact congrArg (Except.map Session.Result.outcome) result
  · have other : ∀ desired latest, step ≠ .reconcile desired latest :=
      fun desired latest same => pass ⟨desired, latest, same⟩
    have heeds : Heeds (step.attempt settings) := step_heeds other
    have result := @Pass.run_cut _ _ remote _ _ heeds k 0 s
    rw [Attempt.exchanges, Attempt.run, Attempt.run]
    split <;> rename_i next
    · rw [Nat.sub_zero, next] at result
      rw [result]
      exact .failed fun desired latest same => absurd same (other desired latest)
    · rwa [Nat.sub_zero, next] at result

end

/-- A step that is cancelled once it has made `k` requests has made the first `k` of the step that is
    not, and left what they leave. It names the next of them, or there was none and nothing changes. -/
theorem cancellation_cuts_to_prefix (remote : Remote σ) (settings : Settings) (step : Session.Step)
    (k : Nat) (s : σ) :
    let attempt := step.attempt settings
    let whole := attempt.run remote none s
    let cut := attempt.run remote (some k) s
    let xs := attempt.exchanges remote none s
    xs.map Exchange.request = whole.calls ∧ Replays remote s xs whole.state ∧
      cut.calls = whole.calls.take k ∧ cut.state = remote.after s (whole.calls.take k) ∧
      match xs[k]? with
      | some x => CutShort settings step (xs.take k) x.operation cut.result
      | none => cut.result = whole.result := by
  intro attempt whole cut xs
  have calls : xs.map Exchange.request = whole.calls := attempt.exchanges_requests remote none s
  have first : attempt.exchanges remote (some k) s = xs.take k :=
    Pass.exchanges_cut (ExceptT.run attempt) k 0 s
  have made : cut.calls = whole.calls.take k := by
    rw [← calls, ← List.map_take, ← first]
    exact (attempt.exchanges_requests remote (some k) s).symm
  have left := replays_after (course_replays (course_of_attempt remote (some k) attempt s))
  rw [attempt.exchanges_requests remote (some k) s] at left
  refine ⟨calls, course_replays (course_of_attempt remote none attempt s), made, made ▸ left, ?_⟩
  rw [← first]
  exact step_cut remote settings step k s

end Registrar
