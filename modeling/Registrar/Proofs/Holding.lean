import Registrar.Proofs.Delivery
import Registrar.Registry

/- A registry seen through one repository that it holds. What it is asked about that repository it
   answers from it, and what it is told to change it changes there and nowhere else. -/
namespace Registrar

namespace Stored

def after (s : Stored) : Request → Stored
  | .putScanning _ onPush => { s with scanOnPush := onPush }
  | .putMutability _ m => { s with mutability := m }
  | .putLifecycle _ text => { s with lifecyclePolicy := some text }
  | .deleteLifecycle _ => { s with lifecyclePolicy := none }
  | .setPolicy _ text => { s with policy := some text }
  | .deletePolicy _ => { s with policy := none }
  | .tag _ tags => { s with tags := Tag.putAll s.tags tags }
  | .untag _ keys => { s with tags := Tag.dropKeys s.tags keys }
  | _ => s

def afterAll (s : Stored) (qs : List Request) : Stored := qs.foldl after s

def takes (s : Stored) : Request → Prop
  | .putScanning t _ | .putMutability t _ | .putLifecycle t _ | .setPolicy t _ => t.name = s.name
  | .deleteLifecycle t => t.name = s.name ∧ s.lifecyclePolicy ≠ none
  | .deletePolicy t => t.name = s.name ∧ s.policy ≠ none
  | .tag arn _ | .untag arn _ => arn = Registry.arnOf s.name
  | _ => False

theorem after_name (s : Stored) (q : Request) : (s.after q).name = s.name := by
  cases q <;> rfl

theorem after_encryption (s : Stored) (q : Request) : (s.after q).encryption = s.encryption := by
  cases q <;> rfl

theorem afterAll_name (s : Stored) (qs : List Request) : (s.afterAll qs).name = s.name := by
  induction qs generalizing s with
  | nil => rfl
  | cons q qs ih => exact (ih (s.after q)).trans (s.after_name q)

theorem afterAll_encryption (s : Stored) (qs : List Request) :
    (s.afterAll qs).encryption = s.encryption := by
  induction qs generalizing s with
  | nil => rfl
  | cons q qs ih => exact (ih (s.after q)).trans (s.after_encryption q)

end Stored

theorem putStored_held {s : Stored} {l : List Stored}
    (held : l.find? (·.name = s.name) = some s) : Registry.putStored s l = l := by
  induction l with
  | nil => cases held
  | cons t l ih =>
    rw [List.find?_cons] at held
    by_cases h : t.name = s.name
    · simp only [h, decide_true, Option.some.injEq] at held
      simp [Registry.putStored, held]
    · simp only [h, decide_false] at held
      rw [Registry.putStored, if_neg h, ih held]

theorem putStored_twice {s t : Stored} (same : t.name = s.name) (l : List Stored) :
    Registry.putStored t (Registry.putStored s l) = Registry.putStored t l := by
  induction l with
  | nil => simp [Registry.putStored, same]
  | cons u l ih =>
    by_cases h : u.name = s.name
    · simp [Registry.putStored, h, same]
    · simp [Registry.putStored, h, same, ih]

theorem find_putStored (s : Stored) (l : List Stored) (name : String) :
    (Registry.putStored s l).find? (·.name = name) =
      if s.name = name then some s else l.find? (·.name = name) := by
  induction l with
  | nil => by_cases h : s.name = name <;> simp [Registry.putStored, h]
  | cons t l ih =>
    by_cases h : t.name = s.name
    · by_cases mine : s.name = name <;> simp [Registry.putStored, h, mine]
    · rw [Registry.putStored, if_neg h, List.find?_cons, ih, List.find?_cons]
      by_cases mine : s.name = name
      · simp [← mine, h]
      · simp [mine]

theorem onFirst_held {s : Stored} {l : List Stored} {f : Stored → Except RemoteError α × Stored}
    (held : l.find? (·.name = s.name) = some s) (kept : (f s).2.name = s.name) :
    Registry.onFirst (·.name = s.name) f l = some ((f s).1, Registry.putStored (f s).2 l) := by
  induction l with
  | nil => cases held
  | cons t l ih =>
    rw [List.find?_cons] at held
    by_cases h : t.name = s.name
    · simp only [h, decide_true, Option.some.injEq] at held
      simp [Registry.onFirst, Registry.putStored, held, kept]
    · simp only [h, decide_false] at held
      simp [Registry.onFirst, Registry.putStored, h, kept, ih held]

theorem arnOf_injective {a b : String} (same : Registry.arnOf a = Registry.arnOf b) : a = b :=
  (String.append_right_inj _).mp same

namespace Registry

def held? (r : Registry) (name : String) : Option Stored := r.stored.find? (·.name = name)

variable {r : Registry} {s t : Stored}

theorem put_held (held : r.held? s.name = some s) : r.put s = r := by
  rw [put, putStored_held held]

theorem put_put (same : t.name = s.name) (r : Registry) : (r.put s).put t = r.put t := by
  simp [put, putStored_twice same]

theorem held_put (r : Registry) (s : Stored) (name : String) :
    (r.put s).held? name = if s.name = name then some s else r.held? name :=
  find_putStored s r.stored name

theorem onNamed_held {f : Stored → Except RemoteError α × Stored} {name : String}
    (own : name = s.name) (held : r.held? s.name = some s) (kept : (f s).2.name = s.name) :
    r.onNamed name f = ((f s).1, r.put (f s).2) := by
  rw [onNamed, own, onFirst_held held kept]
  rfl

theorem onArn_held {f : Stored → Except RemoteError α × Stored} {arn : String}
    (own : arn = arnOf s.name) (held : r.held? s.name = some s) (kept : (f s).2.name = s.name) :
    r.onArn arn f = ((f s).1, r.put (f s).2) := by
  have fits : (fun t : Stored => decide (arnOf t.name = arnOf s.name)) =
      fun t => decide (t.name = s.name) :=
    funext fun t => decide_eq_decide.mpr ⟨arnOf_injective, congrArg arnOf⟩
  rw [onArn, own, fits, onFirst_held held kept]
  rfl

theorem act_takes (held : r.held? s.name = some s) {q : Request} (takes : s.takes q) :
    ∃ b, r.act q = (.ok b, r.put (s.after q)) := by
  cases q with
  | putScanning t onPush => exact ⟨(), onNamed_held takes held rfl⟩
  | putMutability t m => exact ⟨(), onNamed_held takes held rfl⟩
  | putLifecycle t text => exact ⟨(), onNamed_held takes held rfl⟩
  | setPolicy t text => exact ⟨(), onNamed_held takes held rfl⟩
  | deleteLifecycle t =>
    obtain ⟨name, present⟩ := takes
    obtain ⟨text, h⟩ := Option.ne_none_iff_exists'.mp present
    refine ⟨(), ?_⟩
    rw [act, onNamed_held name held] <;> simp [h, Stored.after]
  | deletePolicy t =>
    obtain ⟨name, present⟩ := takes
    obtain ⟨text, h⟩ := Option.ne_none_iff_exists'.mp present
    refine ⟨(), ?_⟩
    rw [act, onNamed_held name held] <;> simp [h, Stored.after]
  | tag arn tags => exact ⟨(), onArn_held takes held rfl⟩
  | untag arn keys => exact ⟨(), onArn_held takes held rfl⟩
  | _ => exact takes.elim

theorem act_getPolicy (held : r.held? s.name = some s) {t : Target} (name : t.name = s.name) :
    r.act (.getPolicy t) = (match s.policy with
      | some text => .ok text
      | none => .error (.noPolicy s.name), r) := by
  have put := put_held held
  cases h : s.policy <;> rw [act, onNamed_held name held] <;> simp [h, put]

theorem act_getLifecycle (held : r.held? s.name = some s) {t : Target} (name : t.name = s.name) :
    r.act (.getLifecycle t) = (match s.lifecyclePolicy with
      | some text => .ok text
      | none => .error (.noLifecycle s.name), r) := by
  have put := put_held held
  cases h : s.lifecyclePolicy <;> rw [act, onNamed_held name held] <;> simp [h, put]

theorem act_listTags (held : r.held? s.name = some s) :
    r.act (.listTags (arnOf s.name)) = (.ok s.tags, r) := by
  rw [act, onArn_held rfl held rfl, put_held held]

theorem answer_unscripted {q : Request} (unscripted : r.script q.operation = []) :
    (∃ e, r.failing q.operation = some e ∧ r.answer q = (.error e, r)) ∨
      r.failing q.operation = none ∧ r.answer q = r.act q := by
  rw [answer, unscripted]
  dsimp only
  rw [actUnlessFailing]
  cases h : r.failing q.operation with
  | some e => exact .inl ⟨e, rfl, rfl⟩
  | none => exact .inr ⟨rfl, rfl⟩

end Registry

def RemoteError.isOutage : RemoteError → Bool
  | .service _ _ | .transport _ => true
  | _ => false

theorem RemoteError.outage_hard {e : RemoteError} (outage : e.isOutage = true) (q : Request) :
    q.tolerates e = false := by
  cases e with
  | service code message => cases q <;> rfl
  | transport text => cases q <;> rfl
  | _ => cases outage

/-- The registry holds the repository, takes nothing else for it and acts by itself, except that
    operations may be out of order. -/
structure Holds (r : Registry) (s : Stored) : Prop where
  held : r.held? s.name = some s
  foreign : ∀ c ∈ r.strays, c.name ≠ some s.name
  unscripted : ∀ op, r.script op = []
  outages : ∀ op e, r.failing op = some e → e.isOutage = true

def Disturbed (r : Registry) (limit : Option Nat) : Prop :=
  limit ≠ none ∨ ∃ op e, r.failing op = some e

theorem Holds.put {r : Registry} {s t : Stored} (holds : Holds r s) (same : t.name = s.name) :
    Holds (r.put t) t where
  held := by rw [Registry.held_put, if_pos rfl]
  foreign := by
    rw [same]
    exact holds.foreign
  unscripted := holds.unscripted
  outages := holds.outages

inductive Taken : Stored → List Request → Prop where
  | nil (s : Stored) : Taken s []
  | cons {s : Stored} {q : Request} {rest : List Request} (takes : s.takes q)
      (tail : Taken (s.after q) rest) : Taken s (q :: rest)

theorem Stored.takes_mutates {s : Stored} {q : Request} (takes : s.takes q) : q.mutates = true := by
  cases q <;> first | rfl | exact takes.elim

/-- Of changes that are taken a first part is made, and the rest only if something disturbs them. -/
theorem failFast_taken {limit : Option Nat} {qs : List Request} {xs : List Exchange}
    {stop : Option Failure} (run : FailFast limit qs xs stop) {r u : Registry} {s : Stored}
    (holds : Holds r s) (taken : Taken s qs) (replays : Replays Registry.remote r xs u) :
    ∃ done rest, qs = done ++ rest ∧ grantedMutations xs = done ∧ u = r.put (s.afterAll done) ∧
      (stop = none ∧ rest = [] ∧ mutations xs = done ∨
        (∃ f, stop = some f) ∧ Disturbed r limit) := by
  -- By induction on the run, for any registry that holds the repository: each grant moves it on.
  induction run generalizing r s with
  | finished =>
    cases replays
    exact ⟨[], [], rfl, rfl, (Registry.put_held holds.held).symm, .inl ⟨rfl, rfl, rfl⟩⟩
  | cancelled q rest cut =>
    cases replays
    exact ⟨[], q :: rest, rfl, rfl, (Registry.put_held holds.held).symm, .inr ⟨⟨_, rfl⟩, .inl cut⟩⟩
  | @refused q e rest hard =>
    cases taken with
    | cons takes tail =>
      cases replays with
      | cons answer ended =>
        cases ended
        rcases Registry.answer_unscripted (holds.unscripted q.operation) with
          ⟨e', failing, h⟩ | ⟨_, h⟩
        · cases h.symm.trans answer
          exact ⟨[], q :: rest, rfl, rfl, (Registry.put_held holds.held).symm,
            .inr ⟨⟨_, rfl⟩, .inr ⟨_, _, failing⟩⟩⟩
        · obtain ⟨b, acted⟩ := Registry.act_takes holds.held takes
          cases (h.trans acted).symm.trans answer
  | @passed x rest xs stop through tail ih =>
    cases taken with
    | cons takes taken =>
      cases replays with
      | @cons _ v _ _ _ answer replays =>
        rcases Registry.answer_unscripted (holds.unscripted x.request.operation) with
          ⟨e, failing, h⟩ | ⟨_, h⟩
        · have same : x.answer = .error e := congrArg Prod.fst (answer.symm.trans h)
          have hard := RemoteError.outage_hard (holds.outages _ e failing) x.request
          rw [Exchange.passed, same] at through
          cases hard.symm.trans through
        · obtain ⟨b, acted⟩ := Registry.act_takes holds.held takes
          have both := answer.symm.trans (h.trans acted)
          have granted : x.answer = .ok b := congrArg Prod.fst both
          have moved : v = r.put (s.after x.request) := congrArg Prod.snd both
          subst moved
          have still := holds.put (s.after_name x.request)
          have changes := Stored.takes_mutates takes
          obtain ⟨done, left, rfl, made, rfl, ended⟩ := ih still taken replays
          refine ⟨x.request :: done, left, rfl, ?_, ?_, ?_⟩
          · rw [← made]
            simp [grantedMutations, mutations, Exchange.granted, granted, changes]
          · rw [Registry.put_put (by rw [Stored.afterAll_name])]
            rfl
          · rcases ended with ⟨unstopped, nothing, asked⟩ | disturbed
            · refine .inl ⟨unstopped, nothing, ?_⟩
              rw [← asked]
              simp [mutations, changes]
            · exact .inr disturbed

theorem failFast_reads {limit : Option Nat} {qs : List Request} {xs : List Exchange}
    {stop : Option Failure} (run : FailFast limit qs xs stop) {r u : Registry} {s : Stored}
    (holds : Holds r s) (reads : ∀ q ∈ qs, ∃ a, r.act q = (a, r) ∧ Exchange.passed ⟨q, a⟩ = true)
    (replays : Replays Registry.remote r xs u) :
    u = r ∧ (stop = none ∨ Disturbed r limit) := by
  induction run with
  | finished =>
    cases replays
    exact ⟨rfl, .inl rfl⟩
  | cancelled q rest cut =>
    cases replays
    exact ⟨rfl, .inr (.inl cut)⟩
  | @refused q e rest hard =>
    cases replays with
    | cons answer ended =>
      cases ended
      rcases Registry.answer_unscripted (holds.unscripted q.operation) with ⟨e', failing, h⟩ | ⟨_, h⟩
      · cases h.symm.trans answer
        exact ⟨rfl, .inr (.inr ⟨_, _, failing⟩)⟩
      · obtain ⟨a, acted, through⟩ := reads q List.mem_cons_self
        cases (h.trans acted).symm.trans answer
        cases hard.symm.trans through
  | @passed x rest xs stop through tail ih =>
    cases replays with
    | @cons _ v _ _ _ answer replays =>
      obtain ⟨a, acted, _⟩ := reads x.request List.mem_cons_self
      have still : v = r := by
        rcases Registry.answer_unscripted (holds.unscripted x.request.operation) with
          ⟨_, _, h⟩ | ⟨_, h⟩
        · exact congrArg Prod.snd (answer.symm.trans h)
        · exact congrArg Prod.snd (answer.symm.trans (h.trans acted))
      subst still
      exact ih (fun q member => reads q (List.mem_cons_of_mem _ member)) replays

theorem replays_passed {r u : Registry} {s : Stored} (holds : Holds r s) {q : Request}
    {a b : Except RemoteError q.Reply} {xs : List Exchange} (acted : r.act q = (a, r))
    (through : Exchange.passed ⟨q, b⟩ = true)
    (replays : Replays Registry.remote r (⟨q, b⟩ :: xs) u) :
    b = a ∧ Replays Registry.remote r xs u := by
  cases replays with
  | cons answer replays =>
    rcases Registry.answer_unscripted (holds.unscripted q.operation) with ⟨e, failing, h⟩ | ⟨_, h⟩
    · cases h.symm.trans answer
      have hard := RemoteError.outage_hard (holds.outages _ e failing) q
      cases hard.symm.trans through
    · cases (h.trans acted).symm.trans answer
      exact ⟨rfl, replays⟩

end Registrar
