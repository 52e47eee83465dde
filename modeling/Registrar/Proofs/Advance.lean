import Registrar.Proofs.Adoption
import Registrar.Proofs.Comparison

/- A pass over a repository that the registry holds. It finds what is stored, makes a first part of
   the changes that are due, and stops before the rest only where it is disturbed. -/
namespace Registrar

def Stored.seen (settings : Settings) (base : Snapshot) (s : Stored) : Snapshot :=
  (base.describedBy s.describe settings).filledIn s.policy s.lifecyclePolicy s.tags

section
variable {settings : Settings} {base : Snapshot} {r : Registry} {s : Stored}

theorem seen_shows (settings : Settings) (base : Snapshot) (s : Stored) :
    (s.seen settings base).Shows s where
  scanning := rfl
  mutability := rfl
  encryption := rfl
  lifecyclePolicy := rfl
  policy := rfl
  tags := rfl
  arn := rfl

theorem described_name (named : s.name ≠ "") (settings : Settings) (base : Snapshot) :
    (base.describedBy s.describe settings).name = s.name := by
  simp [Snapshot.describedBy, Snapshot.name, Spec.describedBy, Stored.describe, nonEmptyText,
    Option.filter_some, named]

theorem describe_held (holds : Holds r s) (named : s.name ≠ "") (name : base.name = s.name)
    (settings : Settings) :
    ∃ candidates : List Candidate, r.act base.description = (.ok candidates, r) ∧
      Lookup.among base candidates settings = .found (base.describedBy s.describe settings) := by
  have own : base.describedNames = [s.name] := by
    simp [Snapshot.describedNames, name, named]
  have meant : (fun t : Stored => decide (([s.name] = [] || t.name ∈ [s.name]) = true ∧
      (base.isMeant ∘ Stored.describe) t = true)) = fun t => decide (t.name = s.name) := by
    funext t
    simp [Snapshot.isMeant, Stored.describe, name, named]
  have among : ((r.stored.filter fun t => [s.name] = [] || t.name ∈ [s.name]).map
      Stored.describe).find? base.isMeant = some s.describe := by
    rw [List.find?_map, List.find?_filter, meant]
    exact congrArg (Option.map Stored.describe) holds.held
  have strays : r.strays.find? base.isMeant = none := by
    refine List.find?_eq_none.mpr fun c member => ?_
    simpa [Snapshot.isMeant, name, named] using holds.foreign c member
  have found : (r.strays ++ (r.stored.filter fun t => [s.name] = [] || t.name ∈ [s.name]).map
      Stored.describe).find? base.isMeant = some s.describe := by
    rw [List.find?_append, strays, among, Option.none_or]
  have nonempty := List.ne_nil_of_mem (List.mem_of_find?_eq_some found)
  refine ⟨_, ?_, among_found_iff.mpr ⟨_, found, rfl⟩⟩
  change (r.describe base.describedNames, r) = _
  rw [own, Registry.describe, if_neg fun h => nonempty h.1]
  rfl

theorem readings_answered (holds : Holds r s) (named : s.name ≠ "") :
    ∀ q ∈ (base.describedBy s.describe settings).readings,
      ∃ a, r.act q = (a, r) ∧ Exchange.passed ⟨q, a⟩ = true := by
  have name := described_name named settings base
  intro q member
  have cases : q = .getPolicy (base.describedBy s.describe settings).target ∨
      q = .getLifecycle (base.describedBy s.describe settings).target ∨
      q = .listTags (Registry.arnOf s.name) := by
    have all : (base.describedBy s.describe settings).readings =
        [.getPolicy (base.describedBy s.describe settings).target,
          .getLifecycle (base.describedBy s.describe settings).target,
          .listTags (Registry.arnOf s.name)] := rfl
    simpa [all] using member
  rcases cases with rfl | rfl | rfl
  · refine ⟨_, Registry.act_getPolicy holds.held name, ?_⟩
    cases s.policy <;> rfl
  · refine ⟨_, Registry.act_getLifecycle holds.held name, ?_⟩
    cases s.lifecyclePolicy <;> rfl
  · exact ⟨_, Registry.act_listTags holds.held, rfl⟩

theorem readings_keep (r : Snapshot) : ∀ q ∈ r.readings, q.mutates = false := by
  intro q member
  rcases Snapshot.mem_readings member with rfl | rfl | ⟨arn, _, rfl⟩ <;> rfl

end

/-- What a pass over a held repository comes to: the changes due are parted into those made and the
    rest. Either there is no rest and the pass ends as it should, or something disturbed it. -/
structure Advance (settings : Settings) (desired latest : Snapshot) (limit : Option Nat)
    (r : Registry) (s : Stored) (done rest : List Request) (xs : List Exchange)
    (res : Except Failure Outcome) (u : Registry) : Prop where
  parted : s.due settings desired = done ++ rest
  granted : grantedMutations xs = done
  left : u = r.put (s.afterAll done)
  ended : (rest = [] ∧ mutations xs = done ∧
      res = .ok (if s.due settings desired = [] then (s.seen settings (desired.sought latest)).leftAlone
        else desired.convergedFrom (s.seen settings (desired.sought latest)))) ∨
    (∃ f, res = .error f) ∧ Disturbed r limit

section
variable {settings : Settings} {desired latest : Snapshot} {limit : Option Nat} {r u : Registry}
  {s : Stored} {xs : List Exchange} {res : Except Failure Outcome}

theorem advance_unread {f : Failure} (holds : Holds r s) (disturbed : Disturbed r limit)
    (kept : mutations xs = []) (still : u = r) :
    Advance settings desired latest limit r s [] (s.due settings desired) xs (.error f) u where
  parted := rfl
  granted := List.eq_nil_of_sublist_nil (kept ▸ grantedMutations_sublist xs)
  left := still.trans (Registry.put_held holds.held).symm
  ended := .inr ⟨⟨f, rfl⟩, disturbed⟩

theorem found_held {candidates : List Candidate} {ys : List Exchange} {found : Snapshot}
    (holds : Holds r s) (name : desired.name = s.name) (named : s.name ≠ "")
    (lookup : Lookup.among (desired.sought latest) candidates settings = .found found)
    (replays : Replays Registry.remote r
      (⟨(desired.sought latest).description, .ok candidates⟩ :: ys) u) :
    found = (desired.sought latest).describedBy s.describe settings ∧
      Replays Registry.remote r ys u := by
  obtain ⟨known, described, among⟩ :=
    @describe_held (desired.sought latest) r s holds named name settings
  obtain ⟨same, rest⟩ := replays_passed holds described rfl replays
  cases same
  rw [among] at lookup
  cases lookup
  exact ⟨rfl, rest⟩

theorem not_absent {answer : Except RemoteError (List Candidate)} {ys : List Exchange}
    (holds : Holds r s) (name : desired.name = s.name) (named : s.name ≠ "")
    (absent : Absent settings (desired.sought latest) answer) :
    ¬ Replays Registry.remote r (⟨(desired.sought latest).description, answer⟩ :: ys) u := by
  intro replays
  obtain ⟨known, described, among⟩ :=
    @describe_held (desired.sought latest) r s holds named name settings
  cases absent with
  | @refused e missing =>
    cases replays with
    | cons answer rest =>
      -- The registry itself finds the repository, and an outage does not say that it is missing.
      rcases @Registry.answer_unscripted r (desired.sought latest).description
        (holds.unscripted _) with ⟨e', failing, refused⟩ | ⟨_, acts⟩
      · cases refused.symm.trans answer
        have outage := holds.outages _ _ failing
        cases e with
        | noRepository text => cases outage
        | _ => cases missing
      · cases (acts.trans described).symm.trans answer
  | others unfound =>
    obtain ⟨same, _⟩ := replays_passed holds described rfl replays
    cases same
    rw [among] at unfound
    cases unfound

theorem replays_observed {candidates : List Candidate} {arn : String}
    {policy lifecycle : Except RemoteError String} {tags : List Tag} {ys : List Exchange}
    {found : Snapshot} (holds : Holds r s) (name : desired.name = s.name) (named : s.name ≠ "")
    (lookup : Lookup.among (desired.sought latest) candidates settings = .found found)
    (located : found.arn = some arn)
    (read : FailFast limit found.readings [⟨.getPolicy found.target, policy⟩,
      ⟨.getLifecycle found.target, lifecycle⟩, ⟨.listTags arn, .ok tags⟩] none)
    (replays : Replays Registry.remote r (⟨(desired.sought latest).description, .ok candidates⟩ ::
      ⟨.getPolicy found.target, policy⟩ :: ⟨.getLifecycle found.target, lifecycle⟩ ::
        ⟨.listTags arn, .ok tags⟩ :: ys) u) :
    found.filledIn policy.toOption lifecycle.toOption tags = s.seen settings (desired.sought latest) ∧
      Replays Registry.remote r ys u := by
  obtain ⟨rfl, afterName⟩ := found_held holds name named lookup replays
  cases located
  have target := described_name named settings (desired.sought latest)
  have through := read.passed_all
  simp only [List.forall_mem_cons] at through
  obtain ⟨hasPolicy, afterPolicy⟩ := replays_passed holds
    (Registry.act_getPolicy holds.held target) through.1 afterName
  obtain ⟨hasLifecycle, afterLifecycle⟩ := replays_passed holds
    (Registry.act_getLifecycle holds.held target) through.2.1 afterPolicy
  obtain ⟨hasTags, afterTags⟩ := replays_passed holds (Registry.act_listTags holds.held)
    through.2.2.1 afterLifecycle
  cases hasTags
  refine ⟨?_, afterTags⟩
  rw [hasPolicy, hasLifecycle, Stored.seen]
  cases s.policy <;> cases s.lifecyclePolicy <;> rfl

theorem mutations_afterReading {found : Snapshot} {candidates : List Candidate} {arn : String}
    {policy lifecycle : Except RemoteError String} {tags : List Tag} (ys : List Exchange) :
    let reads : List Exchange := [⟨(desired.sought latest).description, .ok candidates⟩,
      ⟨.getPolicy found.target, policy⟩, ⟨.getLifecycle found.target, lifecycle⟩,
      ⟨.listTags arn, .ok tags⟩]
    mutations (reads ++ ys) = mutations ys ∧ grantedMutations (reads ++ ys) = grantedMutations ys := by
  constructor
  · exact (mutations_cons_of_kept rfl _).trans ((mutations_cons_of_kept rfl _).trans
      ((mutations_cons_of_kept rfl _).trans (mutations_cons_of_kept rfl _)))
  · exact (grantedMutations_cons_of_kept rfl _).trans ((grantedMutations_cons_of_kept rfl _).trans
      ((grantedMutations_cons_of_kept rfl _).trans (grantedMutations_cons_of_kept rfl _)))

theorem advance_pushed {ys : List Exchange} {stop : Option Failure} (holds : Holds r s)
    (name : desired.name = s.name) (pending : s.due settings desired ≠ [])
    (sent : FailFast limit (s.due settings desired) ys stop)
    (replays : Replays Registry.remote r ys u) (asked : mutations xs = mutations ys)
    (made : grantedMutations xs = grantedMutations ys)
    (result : res = resultOf
      (desired.convergedFrom (s.seen settings (desired.sought latest))) stop) :
    ∃ done rest, Advance settings desired latest limit r s done rest xs res u := by
  obtain ⟨done, rest, parted, granted, left, ended⟩ :=
    failFast_taken sent holds (due_taken name) replays
  refine ⟨done, rest, parted, made.trans granted, left, ?_⟩
  rcases ended with ⟨rfl, nothing, all⟩ | ⟨⟨f, rfl⟩, disturbed⟩
  · refine .inl ⟨nothing, asked.trans all, ?_⟩
    rw [if_neg pending]
    exact result
  · exact .inr ⟨⟨f, result⟩, disturbed⟩

theorem advance_of_reconciling (holds : Holds r s) (name : desired.name = s.name)
    (named : desired.name ≠ "")
    (course : Reconciling limit settings desired (some latest) xs res)
    (replays : Replays Registry.remote r xs u) :
    retryBlocked settings desired latest = true ∨
      ∃ done rest, Advance settings desired latest limit r s done rest xs res u := by
  have named' : s.name ≠ "" := name ▸ named
  have shows := seen_shows settings (desired.sought latest) s
  cases course with
  | unnamed nameless => exact absurd nameless named
  | blocked failed => exact .inl failed
  | undescribed ended =>
    obtain ⟨_, described, _⟩ :=
      @describe_held (desired.sought latest) r s holds named' name settings
    obtain ⟨still, stopped | disturbed⟩ := failFast_reads ended holds
      (by simpa using ⟨_, described, rfl⟩) replays
    · cases stopped
    · exact .inr ⟨_, _, advance_unread holds disturbed (ended.no_mutations (by simp; rfl)) still⟩
  | recreated absent creation => exact absurd replays (not_absent holds name named' absent)
  | unread found ended =>
    obtain ⟨rfl, reading⟩ := found_held holds name named' found replays
    obtain ⟨still, stopped | disturbed⟩ :=
      failFast_reads ended holds (readings_answered holds named') reading
    · cases stopped
    · refine .inr ⟨_, _, advance_unread holds disturbed ?_ still⟩
      rw [mutations_cons_of_kept rfl, ended.no_mutations (readings_keep _)]
  | placeless found placeless read =>
    obtain ⟨rfl, _⟩ := found_held holds name named' found replays
    cases placeless
  | current found located read same =>
    obtain ⟨observed, ended⟩ := replays_observed holds name named' found located read replays
    cases ended
    obtain ⟨asked, made⟩ := mutations_afterReading []
    rw [observed, needsRequests_shown shows] at same
    rw [observed]
    refine .inr ⟨[], [], same, made, (Registry.put_held holds.held).symm, .inl ⟨rfl, asked, ?_⟩⟩
    rw [if_pos same]
  | @pushed _ _ _ _ _ _ _ ys stop found located read differs sent =>
    obtain ⟨observed, replays⟩ := replays_observed holds name named' found located read replays
    obtain ⟨asked, made⟩ := mutations_afterReading ys
    rw [observed] at differs sent
    rw [plan_shown shows] at sent
    have pending : s.due settings desired ≠ [] := by
      intro nothing
      cases differs.symm.trans ((needsRequests_shown shows).mpr nothing)
    refine .inr (advance_pushed holds name pending sent replays asked made ?_)
    rw [observed]

/-- Whatever keeps the pass from getting through, it advances some part of the way. -/
theorem reconcile_advances (settings : Settings) (desired latest : Snapshot) (limit : Option Nat)
    (holds : Holds r s) (name : desired.name = s.name) (named : desired.name ≠ "")
    (unblocked : retryBlocked settings desired latest = false) :
    ∃ done rest, Advance settings desired latest limit r s done rest
      ((reconcile settings desired (some latest)).exchanges Registry.remote limit r)
      ((reconcile settings desired (some latest)).run Registry.remote limit r).result
      ((reconcile settings desired (some latest)).run Registry.remote limit r).state := by
  have course := course_of_attempt Registry.remote limit (reconcile settings desired (some latest)) r
  rcases advance_of_reconciling holds name named (reconciling_of_course course)
    (course_replays course) with blocked | advance
  · cases unblocked.symm.trans blocked
  · exact advance

end

def Transcript.mutations (t : Transcript σ α) : List Request := t.calls.filter Request.mutates

theorem mutations_exchanges (remote : Remote σ) (limit : Option Nat) (a : Attempt α) (s : σ) :
    mutations (a.exchanges remote limit s) = (a.run remote limit s).mutations := by
  rw [mutations, Attempt.exchanges_requests, Transcript.mutations]

structure Registry.Calm (r : Registry) : Prop where
  failing : ∀ op, r.failing op = none
  script : ∀ op, r.script op = []

theorem Registry.Calm.holds {r : Registry} {s : Stored} (calm : r.Calm)
    (held : r.held? s.name = some s) (foreign : ∀ c ∈ r.strays, c.name ≠ some s.name) :
    Holds r s where
  held := held
  foreign := foreign
  unscripted := calm.script
  outages op e failing := by
    rw [calm.failing] at failing
    cases failing

theorem Registry.Calm.undisturbed {r : Registry} (calm : r.Calm) : ¬ Disturbed r none := by
  rintro (limited | ⟨op, e, failing⟩)
  · exact limited rfl
  · rw [calm.failing] at failing
    cases failing

theorem Registry.held_name {r : Registry} {s : Stored} {name : String}
    (held : r.held? name = some s) : s.name = name := by
  simpa using List.find?_some held

theorem reconcile_calm {settings : Settings} {desired latest : Snapshot} {r : Registry} {s : Stored}
    (calm : r.Calm) (foreign : ∀ c ∈ r.strays, c.name ≠ some desired.name)
    (held : r.held? desired.name = some s) (named : desired.name ≠ "")
    (unblocked : retryBlocked settings desired latest = false) :
    let t := (reconcile settings desired (some latest)).run Registry.remote none r
    t.state = r.put (s.afterAll (s.due settings desired)) ∧
      t.mutations = s.due settings desired ∧
      t.result = .ok (if s.due settings desired = []
        then (s.seen settings (desired.sought latest)).leftAlone
        else desired.convergedFrom (s.seen settings (desired.sought latest))) := by
  have name := Registry.held_name held
  have holds : Holds r s := calm.holds (name.symm ▸ held) (name.symm ▸ foreign)
  obtain ⟨done, rest, advance⟩ :=
    reconcile_advances settings desired latest none holds name.symm named unblocked
  rcases advance.ended with ⟨rfl, asked, result⟩ | ⟨_, disturbed⟩
  · have whole := advance.parted
    rw [List.append_nil] at whole
    refine ⟨whole ▸ advance.left, ?_, result⟩
    rw [← mutations_exchanges, asked, whole]
  · exact absurd disturbed calm.undisturbed

end Registrar
