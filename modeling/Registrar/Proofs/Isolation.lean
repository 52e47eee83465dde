import Registrar.Proofs.Protocol
import Registrar.Proofs.Settling

/- What a pass over one repository does to the others: nothing. All but tags is asked for by name, and
   the name is the one desired; tags are asked for by the ARN that was just reported for that name,
   whatever is remembered of it. -/
namespace Registrar

namespace Request

def names : Request → List String
  | .describe _ names => names
  | .create c => [c.name]
  | .delete t _ | .putScanning t _ | .putMutability t _ | .getLifecycle t | .putLifecycle t _
  | .deleteLifecycle t | .getPolicy t | .setPolicy t _ | .deletePolicy t => [t.name]
  | .listTags _ | .tag _ _ | .untag _ _ => []

def arn? : Request → Option String
  | .listTags arn | .tag arn _ | .untag arn _ => some arn
  | _ => none

def removes : Request → Bool
  | .delete _ _ => true
  | _ => false

/-- A request that names no other repository, carries no other ARN and removes nothing. -/
structure OnBehalf (name : String) (arn : Option String) (q : Request) : Prop where
  names : ∀ n ∈ q.names, n = name
  located : ∀ a, q.arn? = some a → arn = some a
  kept : q.removes = false

end Request

def Reported (name : String) (xs : List Exchange) (arn : String) : Prop :=
  ∃ registryId names candidates c, ⟨.describe registryId names, .ok candidates⟩ ∈ xs ∧
    candidates.find? (·.name = some name) = some c ∧ c.arn = some arn

/-- Every request names that repository only, goes to no ARN but one reported for it before, and
    removes nothing. -/
def Addressed (name : String) (xs : List Exchange) : Prop :=
  ∀ before x after, xs = before ++ x :: after →
    (∀ n ∈ x.request.names, n = name) ∧
      (∀ arn, x.request.arn? = some arn → Reported name before arn) ∧
      x.request.removes = false

section
variable {name : String} {arn : Option String} {settings : Settings} {limit : Option Nat}
  {desired : Snapshot} {xs : List Exchange}

theorem FailFast.onBehalf {qs : List Request} {stop : Option Failure}
    (run : FailFast limit qs xs stop) (asked : ∀ q ∈ qs, q.OnBehalf name arn) :
    ∀ x ∈ xs, x.request.OnBehalf name arn := fun _ member =>
  asked _ (run.asked_mem member)

theorem onBehalf_target {t : Target} {q : Request} (names : q.names = [t.name])
    (placeless : q.arn? = none) (own : t.name = name) (kept : q.removes = false) :
    q.OnBehalf name arn where
  kept := kept
  names n member := by
    rw [names] at member
    exact (List.mem_singleton.mp member).trans own
  located a asked := by
    rw [placeless] at asked
    cases asked

theorem onBehalf_tags {a : String} {q : Request} (nameless : q.names = [])
    (asked : q.arn? = some a) (own : arn = some a) (kept : q.removes = false) :
    q.OnBehalf name arn where
  kept := kept
  names n member := by
    rw [nameless] at member
    cases member
  located b h := by
    rw [asked] at h
    cases h
    exact own

theorem readings_onBehalf {r : Snapshot} (own : r.name = name) :
    ∀ q ∈ r.readings, q.OnBehalf name r.arn := by
  intro q member
  rcases Snapshot.mem_readings member with rfl | rfl | ⟨a, located, rfl⟩
  · exact onBehalf_target (t := r.target) rfl rfl own rfl
  · exact onBehalf_target (t := r.target) rfl rfl own rfl
  · exact onBehalf_tags rfl rfl located rfl

theorem requests_onBehalf {a : String} {old : List Tag} {f : Field} {q : Request}
    (asked : q ∈ f.requests settings desired a old) : q.OnBehalf desired.name (some a) := by
  cases requests_push asked with
  | untag keys => exact onBehalf_tags rfl rfl rfl rfl
  | tag tags => exact onBehalf_tags rfl rfl rfl rfl
  | _ => exact onBehalf_target (t := desired.target) rfl rfl rfl rfl

theorem plan_onBehalf {latest : Snapshot} {changes : ChangeSet} {a : String}
    (located : latest.arn = some a) :
    ∀ q ∈ changes.plan settings desired latest, q.OnBehalf desired.name (some a) := by
  intro q member
  obtain ⟨f, _, asked⟩ := List.mem_flatMap.mp member
  rw [located] at asked
  exact requests_onBehalf asked

theorem followUps_onBehalf {r : Snapshot} (own : r.name = name) :
    ∀ q ∈ r.followUps, q.OnBehalf name arn := by
  intro q member
  rcases List.mem_append.mp member with member | member
  · obtain ⟨text, _, rfl⟩ := List.mem_map.mp member
    exact onBehalf_target (t := r.target) rfl rfl own rfl
  · obtain ⟨text, _, rfl⟩ := List.mem_map.mp member
    exact onBehalf_target (t := r.target) rfl rfl own rfl

theorem description_onBehalf {base : Snapshot} (own : base.name = name) :
    base.description.OnBehalf name arn where
  names n member := by
    rw [Snapshot.description, Request.names, Snapshot.describedNames] at member
    split at member
    · cases member
    · exact (List.mem_singleton.mp member).trans own
  located a asked := by cases asked
  kept := rfl

theorem Creating.onBehalf {res : Except Failure Outcome}
    (creation : Creating limit settings desired xs res) :
    ∀ x ∈ xs, x.request.OnBehalf desired.name none := by
  have creating : Request.OnBehalf desired.name none (.create desired.spec.creation) :=
    ⟨fun n member => List.mem_singleton.mp member, fun a asked => (by cases asked), rfl⟩
  cases creation with
  | refused ended => exact ended.onBehalf (List.forall_mem_singleton.mpr creating)
  | made followed =>
    exact List.forall_mem_cons.mpr ⟨creating, followed.onBehalf (followUps_onBehalf rfl)⟩

theorem addressed_unlocated (own : ∀ x ∈ xs, x.request.OnBehalf name none) : Addressed name xs := by
  rintro before x after rfl
  have asked := own x (List.mem_append_right before List.mem_cons_self)
  refine ⟨asked.names, fun arn h => ?_, asked.kept⟩
  cases asked.located arn h

theorem addressed_found {latest r : Snapshot} {candidates : List Candidate}
    (named : desired.name ≠ "")
    (found : Lookup.among (desired.sought latest) candidates settings = .found r)
    (asked : r.name = desired.name → ∀ x ∈ xs, x.request.OnBehalf desired.name r.arn) :
    Addressed desired.name (⟨(desired.sought latest).description, .ok candidates⟩ :: xs) := by
  obtain ⟨c, picked, rfl⟩ := @among_picked (desired.sought latest) r _ _ named found
  have own : c.name = some (desired.sought latest).name := by simpa using List.find?_some picked
  have same : ((desired.sought latest).describedBy c settings).name = desired.name :=
    picked_name named own settings
  intro before x after parted
  cases before with
  | nil =>
    obtain ⟨rfl, rfl⟩ := List.cons.inj parted
    have asked : (desired.sought latest).description.OnBehalf desired.name none :=
      description_onBehalf rfl
    refine ⟨asked.names, fun arn h => ?_, asked.kept⟩
    cases h
  | cons first before =>
    obtain ⟨rfl, rfl⟩ := List.cons.inj parted
    have asked := asked same x (List.mem_append_right before List.mem_cons_self)
    refine ⟨asked.names, fun arn h => ?_, asked.kept⟩
    exact ⟨_, _, candidates, c, List.mem_cons_self, picked, asked.located arn h⟩

theorem Reconciling.addressed {latest : Option Snapshot} {res : Except Failure Outcome}
    (named : desired.name ≠ "") (course : Reconciling limit settings desired latest xs res) :
    Addressed desired.name xs := by
  cases course with
  | unnamed nameless => exact absurd nameless named
  | created creation => exact addressed_unlocated creation.onBehalf
  | blocked failed => exact addressed_unlocated (by simp)
  | @undescribed latest xs stop ended =>
    have asked : ∀ q ∈ [(desired.sought latest).description], q.OnBehalf desired.name none :=
      List.forall_mem_singleton.mpr (description_onBehalf rfl)
    exact addressed_unlocated (ended.onBehalf asked)
  | @recreated latest answer xs res absent creation =>
    exact addressed_unlocated
      (List.forall_mem_cons.mpr ⟨description_onBehalf rfl, creation.onBehalf⟩)
  | unread found ended =>
    exact addressed_found named found fun own => ended.onBehalf (readings_onBehalf own)
  | placeless found placeless read =>
    exact addressed_found named found fun own => read.onBehalf (readings_onBehalf own)
  | current found located read same =>
    exact addressed_found named found fun own => read.onBehalf (readings_onBehalf own)
  | @pushed latest r candidates arn policy lifecycle tags xs stop found located read differs sent =>
    refine addressed_found named found fun own => ?_
    have asked := read.onBehalf (readings_onBehalf own)
    have pushed := sent.onBehalf (plan_onBehalf (a := arn) located)
    rw [← located] at pushed
    exact List.forall_mem_append.mpr ⟨asked, pushed⟩

end

structure KeepsOthers (name : String) (before after : List Stored) : Prop where
  others : after.filter (·.name ≠ name) = before.filter (·.name ≠ name)
  names : after.map Stored.name = before.map Stored.name ∨
    name ∉ before.map Stored.name ∧ after.map Stored.name = before.map Stored.name ++ [name]

namespace KeepsOthers
variable {name : String}

theorem refl (name : String) (l : List Stored) : KeepsOthers name l l := ⟨rfl, .inl rfl⟩

theorem trans {l m n : List Stored} (first : KeepsOthers name l m) (second : KeepsOthers name m n) :
    KeepsOthers name l n := by
  refine ⟨second.others.trans first.others, ?_⟩
  rcases second.names with same | ⟨missing, added⟩
  · rw [same]
    exact first.names
  · rcases first.names with same | ⟨_, present⟩
    · rw [same] at missing added
      exact .inr ⟨missing, added⟩
    · exact absurd (by simp [present]) missing

end KeepsOthers

theorem onFirst_keeps {name : String} {fits : Stored → Bool}
    {f : Stored → Except RemoteError α × Stored} (own : ∀ s, fits s = true → s.name = name)
    (kept : ∀ s, (f s).2.name = s.name) {l m : List Stored} {a : Except RemoteError α}
    (changed : Registry.onFirst fits f l = some (a, m)) :
    m.filter (·.name ≠ name) = l.filter (·.name ≠ name) ∧
      m.map Stored.name = l.map Stored.name := by
  induction l generalizing m with
  | nil => cases changed
  | cons s l ih =>
    rw [Registry.onFirst] at changed
    split at changed <;> rename_i first
    · cases changed
      have mine := own s first
      constructor
      · rw [List.filter_cons_of_neg (by simp [kept s, mine]),
          List.filter_cons_of_neg (by simp [mine])]
      · rw [List.map_cons, List.map_cons, kept s]
    · obtain ⟨⟨b, n⟩, rest, h⟩ := Option.map_eq_some_iff.mp changed
      cases h
      obtain ⟨others, names⟩ := ih rest
      constructor
      · rw [List.filter_cons, List.filter_cons, others]
      · rw [List.map_cons, List.map_cons, names]

namespace Registry
variable {name : String} {r : Registry}

theorem onNamed_keeps {f : Stored → Except RemoteError α × Stored} (own : n = name)
    (kept : ∀ s, (f s).2.name = s.name) :
    KeepsOthers name r.stored (r.onNamed n f).2.stored := by
  rw [onNamed]
  split <;> rename_i changed
  · obtain ⟨others, names⟩ :=
      @onFirst_keeps _ name _ _ (fun s fits => (of_decide_eq_true fits).trans own) kept _ _ _ changed
    exact ⟨others, .inl names⟩
  · exact .refl name r.stored

theorem onArn_keeps {f : Stored → Except RemoteError α × Stored} (own : a = arnOf name)
    (kept : ∀ s, (f s).2.name = s.name) :
    KeepsOthers name r.stored (r.onArn a f).2.stored := by
  rw [onArn]
  split <;> rename_i changed
  · obtain ⟨others, names⟩ := @onFirst_keeps _ name _ _
      (fun s fits => arnOf_injective ((of_decide_eq_true fits).trans own)) kept _ _ _ changed
    exact ⟨others, .inl names⟩
  · exact .refl name r.stored

theorem act_keeps {q : Request} (own : q.OnBehalf name (some (arnOf name))) :
    KeepsOthers name r.stored (r.act q).2.stored := by
  have target {t : Target} (names : q.names = [t.name]) : t.name = name :=
    own.names t.name (names ▸ List.mem_singleton_self t.name)
  have resource {arn : String} (asked : q.arn? = some arn) : arn = arnOf name :=
    (Option.some.inj (own.located arn asked)).symm
  cases q with
  | describe registryId names => exact .refl name r.stored
  | create c =>
    have mine : c.name = name := own.names c.name (List.mem_singleton_self c.name)
    rw [act, create]
    split <;> rename_i taken
    · exact .refl name r.stored
    · refine ⟨?_, .inr ⟨?_, ?_⟩⟩
      · simp [Creation.stored, mine]
      · simpa [mine] using taken
      · simp [Creation.stored, mine]
  | delete t force => cases own.kept
  | putScanning t _ | putMutability t _ | putLifecycle t _ | setPolicy t _ =>
    exact onNamed_keeps (target rfl) fun _ => rfl
  | getLifecycle t | deleteLifecycle t =>
    exact onNamed_keeps (target rfl) fun s => by cases s.lifecyclePolicy <;> rfl
  | getPolicy t | deletePolicy t =>
    exact onNamed_keeps (target rfl) fun s => by cases s.policy <;> rfl
  | listTags arn | tag arn _ | untag arn _ => exact onArn_keeps (resource rfl) fun _ => rfl

theorem delete_others (r : Registry) (name : String) :
    (r.delete name).2.stored.filter (·.name ≠ name) = r.stored.filter (·.name ≠ name) := by
  rw [delete]
  split
  · simp [List.filter_filter]
  · rfl

theorem act_strays (r : Registry) (q : Request) :
    (r.act q).2.strays = r.strays ∧ (r.act q).2.script = r.script := by
  have named (n : String) {α : Type} (f : Stored → Except RemoteError α × Stored) :
      (r.onNamed n f).2.strays = r.strays ∧ (r.onNamed n f).2.script = r.script := by
    rw [onNamed]
    split <;> exact ⟨rfl, rfl⟩
  have located (a : String) {α : Type} (f : Stored → Except RemoteError α × Stored) :
      (r.onArn a f).2.strays = r.strays ∧ (r.onArn a f).2.script = r.script := by
    rw [onArn]
    split <;> exact ⟨rfl, rfl⟩
  cases q with
  | describe registryId names => exact ⟨rfl, rfl⟩
  | create c =>
    rw [act, create]
    split <;> exact ⟨rfl, rfl⟩
  | delete t force =>
    rw [act, delete]
    split <;> exact ⟨rfl, rfl⟩
  | listTags _ | tag _ _ | untag _ _ => exact located _ _
  | _ => exact named _ _

structure Spent (r u : Registry) : Prop where
  stored : u.stored = r.stored
  strays : u.strays = r.strays
  script : ∀ op, u.script op <:+ r.script op

theorem Spent.refl (r : Registry) : Spent r r := ⟨rfl, rfl, fun _ => List.suffix_refl _⟩

theorem spent_withScript {op : Operation} {first : Scripted op} {rest : List (Scripted op)}
    (scripted : r.script op = first :: rest) : Spent r (r.withScript op rest) := by
  refine ⟨rfl, rfl, fun o => ?_⟩
  rw [withScript]
  dsimp only
  split <;> rename_i same
  · subst same
    rw [scripted]
    exact List.suffix_cons first rest
  · exact List.suffix_refl _

theorem actUnlessFailing_cases (r : Registry) (q : Request) :
    (∃ e, r.actUnlessFailing q = (.error e, r)) ∨ r.actUnlessFailing q = r.act q := by
  rw [actUnlessFailing]
  split
  · exact .inl ⟨_, rfl⟩
  · exact .inr rfl

/-- The registry refuses, or gives an answer that was laid down for it, or acts. -/
theorem answer_cases (r : Registry) (q : Request) : ∃ u, Spent r u ∧
    ((∃ e, r.answer q = (.error e, u)) ∨
      (∃ b, Scripted.granted b ∈ r.script q.operation ∧ r.answer q = (.ok b, u)) ∨
        r.answer q = u.act q) := by
  rw [answer]
  split <;> rename_i scripted
  · refine ⟨r, .refl r, ?_⟩
    rcases r.actUnlessFailing_cases q with failed | acted
    · exact .inl failed
    · exact .inr (.inr acted)
  · exact ⟨_, spent_withScript scripted, .inl ⟨_, rfl⟩⟩
  · refine ⟨_, spent_withScript scripted, .inr (.inl ⟨_, ?_, rfl⟩)⟩
    rw [scripted]
    exact List.mem_cons_self
  · refine ⟨_, spent_withScript scripted, ?_⟩
    rcases (r.withScript q.operation _).actUnlessFailing_cases q with failed | acted
    · exact .inl failed
    · exact .inr (.inr acted)

/-- The registry says nothing false of the repository: what else it describes has other names, and
    no description is laid down for it. -/
structure Honest (name : String) (r : Registry) : Prop where
  foreign : ∀ c ∈ r.strays, c.name ≠ some name
  unforged : ∀ candidates, Scripted.granted candidates ∉ r.script .describe

theorem Honest.spent {u : Registry} (honest : Honest name r) (spent : Spent r u) :
    Honest name u where
  foreign := by
    rw [spent.strays]
    exact honest.foreign
  unforged candidates member := honest.unforged candidates ((spent.script .describe).subset member)

theorem Honest.act (honest : Honest name r) (q : Request) : Honest name (r.act q).2 := by
  obtain ⟨strays, script⟩ := r.act_strays q
  constructor
  · rw [strays]
    exact honest.foreign
  · rw [script]
    exact honest.unforged

theorem Honest.answer (honest : Honest name r) (q : Request) : Honest name (r.answer q).2 := by
  obtain ⟨u, spent, ⟨e, same⟩ | ⟨b, _, same⟩ | acted⟩ := r.answer_cases q
  · rw [same]
    exact honest.spent spent
  · rw [same]
    exact honest.spent spent
  · rw [acted]
    exact (honest.spent spent).act q

theorem Honest.described (honest : Honest name r) {registryId : Option String} {names : List String}
    {candidates : List Candidate} {u : Registry}
    (answer : r.answer (.describe registryId names) = (.ok candidates, u)) {c : Candidate}
    (member : c ∈ candidates) (own : c.name = some name) : c.arn = some (arnOf name) := by
  obtain ⟨v, spent, ⟨e, same⟩ | ⟨b, forged, _⟩ | acted⟩ := r.answer_cases (.describe registryId names)
  · cases same.symm.trans answer
  · exact absurd forged (honest.unforged b)
  · have described : v.describe names = .ok candidates :=
      congrArg Prod.fst (acted.symm.trans answer)
    rw [describe] at described
    split at described
    · cases described
    · cases described
      rcases List.mem_append.mp member with stray | held
      · rw [spent.strays] at stray
        exact absurd own (honest.foreign c stray)
      · obtain ⟨s, _, rfl⟩ := List.mem_map.mp held
        exact congrArg (Option.map arnOf) own

theorem answer_keeps {q : Request} (own : q.OnBehalf name (some (arnOf name))) :
    KeepsOthers name r.stored (r.answer q).2.stored := by
  obtain ⟨u, spent, ⟨e, same⟩ | ⟨b, _, same⟩ | acted⟩ := r.answer_cases q
  · rw [same, spent.stored]
    exact .refl name r.stored
  · rw [same, spent.stored]
    exact .refl name r.stored
  · rw [acted, ← spent.stored]
    exact act_keeps own

theorem answer_delete (r : Registry) (t : Target) (force : Bool) :
    (r.answer (.delete t force)).2.stored.filter (·.name ≠ t.name) =
      r.stored.filter (·.name ≠ t.name) := by
  obtain ⟨u, spent, ⟨e, same⟩ | ⟨b, _, same⟩ | acted⟩ := r.answer_cases (.delete t force)
  · rw [same, spent.stored]
  · rw [same, spent.stored]
  · rw [acted, ← spent.stored]
    exact u.delete_others t.name

end Registry

section
variable {name : String} {r u : Registry} {xs : List Exchange}

theorem Reported.own (honest : r.Honest name) (replays : Replays Registry.remote r xs u)
    {arn : String} (reported : Reported name xs arn) : arn = Registry.arnOf name := by
  obtain ⟨registryId, names, candidates, c, member, picked, located⟩ := reported
  induction replays with
  | nil s => cases member
  | @cons s v t x xs answer rest ih =>
    rcases List.mem_cons.mp member with rfl | member
    · have own : c.name = some name := by simpa using List.find?_some picked
      have arn := honest.described answer (List.mem_of_find?_eq_some picked) own
      exact Option.some.inj (located.symm.trans arn)
    · have moved : (s.answer x.request).2 = v := congrArg Prod.snd answer
      exact ih (moved ▸ honest.answer x.request) member

theorem replays_keeps (replays : Replays Registry.remote r xs u)
    (own : ∀ x ∈ xs, x.request.OnBehalf name (some (Registry.arnOf name))) :
    KeepsOthers name r.stored u.stored := by
  induction replays with
  | nil s => exact .refl name s.stored
  | @cons s v t x xs answer rest ih =>
    have first := Registry.answer_keeps (r := s) (own x List.mem_cons_self)
    have moved : (s.answer x.request).2 = v := congrArg Prod.snd answer
    rw [moved] at first
    exact first.trans (ih fun y member => own y (List.mem_cons_of_mem x member))

theorem Reported.mono {ys : List Exchange} {arn : String} (reported : Reported name xs arn)
    (more : xs ⊆ ys) : Reported name ys arn := by
  obtain ⟨registryId, names, candidates, c, member, rest⟩ := reported
  exact ⟨registryId, names, candidates, c, more member, rest⟩

theorem Addressed.onBehalf (addressed : Addressed name xs) (honest : r.Honest name)
    (replays : Replays Registry.remote r xs u) :
    ∀ x ∈ xs, x.request.OnBehalf name (some (Registry.arnOf name)) := by
  intro x member
  obtain ⟨before, after, parted⟩ := List.append_of_mem member
  obtain ⟨names, reported, kept⟩ := addressed before x after parted
  refine ⟨names, fun arn asked => ?_, kept⟩
  have known : Reported name xs arn := (reported arn asked).mono (by simp [parted])
  rw [known.own honest replays]

end

section
variable {remote : Remote σ} {limit : Option Nat} {s t : σ} {xs : List Exchange}

theorem course_remove {gone : Snapshot} {force : Bool} {res : Except Failure Unit}
    (course : AttemptCourse remote limit (remove gone force) 0 s xs res t) :
    t = s ∨ (remote.answer s (.delete gone.target force)).2 = t := by
  rcases attempt_answer (attempt_note course) with ⟨_, _, _, same⟩ |
    ⟨_, answer, u, ys, answered, rest, _⟩
  · exact .inl same
  · have last : u = t := by
      cases answer with
      | ok a => exact (attempt_pure rest).2.2.symm
      | error e =>
        dsimp only at rest
        split at rest
        · cases rest with
          | note rest =>
            cases rest
            rfl
        · exact (attempt_throw rest).2.2.symm
    exact .inr ((congrArg Prod.snd answered).trans last)

end

/-- A pass over one repository leaves the repositories of all other names as they are, removes none
    and adds none but its own, whatever identity is remembered and wherever it fails or is cancelled.
    A removal changes no repository but its own. -/
theorem pass_keeps_to_its_repository (settings : Settings) (r : Registry) :
    (∀ (desired : Snapshot) (latest : Option Snapshot) (limit : Option Nat),
      desired.name ≠ "" → r.Honest desired.name →
        let pass := reconcile settings desired latest
        let t := pass.run Registry.remote limit r
        let xs := pass.exchanges Registry.remote limit r
        KeepsOthers desired.name r.stored t.state.stored ∧
          xs.map Exchange.request = t.calls ∧ Replays Registry.remote r xs t.state ∧
          Addressed desired.name xs) ∧
    ∀ (gone : Snapshot) (force : Bool) (limit : Option Nat),
      let t := (remove gone force).run Registry.remote limit r
      t.state.stored.filter (·.name ≠ gone.name) = r.stored.filter (·.name ≠ gone.name) := by
  constructor
  · intro desired latest limit named honest pass t xs
    have course := course_of_attempt Registry.remote limit pass r
    have replays : Replays Registry.remote r xs t.state := course_replays course
    have addressed : Addressed desired.name xs := (reconciling_of_course course).addressed named
    exact ⟨replays_keeps replays (addressed.onBehalf honest replays),
      pass.exchanges_requests Registry.remote limit r, replays, addressed⟩
  · intro gone force limit t
    rcases course_remove (course_of_attempt Registry.remote limit (remove gone force) r) with
      same | moved
    · rw [same]
    · rw [← moved]
      exact r.answer_delete gone.target force

theorem misled_pass_keeps_to_its_repository :
    let r := drifted.withStray { name := some "other", arn := some (Registry.arnOf "base") }
    let latest : Snapshot := ⟨wanted.spec, { arn := some (Registry.arnOf "base") }⟩
    let t := (reconcile (.of "123456789012" "us-west-2") wanted (some latest)).run Registry.remote
      none r
    wanted.name ≠ "" ∧ r.Honest wanted.name ∧ KeepsOthers "app" r.stored t.state.stored ∧
      t.calls.filterMap Request.arn? = List.replicate 3 (Registry.arnOf "app") ∧
      t.state.stored.head? = some { name := "base" } := by
  have named : wanted.name ≠ "" := by decide
  have honest : (drifted.withStray
      { name := some "other", arn := some (Registry.arnOf "base") }).Honest wanted.name :=
    ⟨by decide, fun _ => List.not_mem_nil⟩
  obtain ⟨kept, _⟩ := (pass_keeps_to_its_repository (.of "123456789012" "us-west-2") _).1 wanted
    (some ⟨wanted.spec, { arn := some (Registry.arnOf "base") }⟩) none named honest
  refine ⟨named, honest, kept, ?_, ?_⟩
  · decide +kernel
  · decide +kernel

end Registrar
