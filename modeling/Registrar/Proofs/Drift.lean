import Registrar.Ecr
import Registrar.Proofs.Comparison
import Registrar.Proofs.Protocol

/- Where the service and the caller differ about mutability, and whether a pass sees it. The service
   says it in a word; a word that names no setting is taken for silence, and a repository of which
   nothing is said counts as desired. -/
namespace Registrar

def Spec.mutabilitySaid (s : Spec) (word : String) : Option Mutability :=
  (Mutability.ofWord? word).or s.mutability

section
variable {settings : Settings} {desired latest : Snapshot}

theorem plan_putMutability (changes : ChangeSet) :
    (∃ q ∈ changes.plan settings desired latest, q.operation = .putMutability) ↔
      changes.differsAt .mutability = true := by
  constructor
  · rintro ⟨q, member, put⟩
    obtain ⟨f, differs, asked⟩ := List.mem_flatMap.mp member
    have field := requests_field asked
    obtain rfl : f = .mutability := by cases q <;> simp_all [Request.field?]
    exact (List.mem_filter.mp differs).2
  · intro differs
    have chosen : Field.mutability ∈ Field.pushed.filter changes.differsAt :=
      List.mem_filter.mpr ⟨by decide, differs⟩
    exact ⟨_, List.mem_flatMap.mpr ⟨_, chosen, List.mem_singleton_self _⟩, rfl⟩

theorem differsAt_of_kept {changes : ChangeSet} (kept : changes.needsRequests = false) {f : Field}
    (pushed : f ∈ Field.pushed) : changes.differsAt f = false :=
  Bool.eq_false_iff.mpr (List.any_eq_false.mp kept f pushed)

theorem differs_said (settings : Settings) {observed : Snapshot} {word : String}
    (said : observed.spec.mutability = desired.spec.mutabilitySaid word) :
    (ChangeSet.between settings desired observed).differsAt .mutability = true ↔
      ∃ m : Mutability, word = m.word ∧ m ≠ desired.spec.effectiveMutability settings := by
  simp only [differsAt_between, Difference.at, Difference.valueAt, Difference.mutability]
  have read : observed.spec.effectiveMutability settings =
      (desired.spec.mutabilitySaid word).getD settings.presetMutability := by
    rw [Spec.effectiveMutability, said]
  cases known : Mutability.ofWord? word with
  | none =>
    -- What is not understood counts as desired, so that nothing differs.
    have same : observed.spec.effectiveMutability settings =
        desired.spec.effectiveMutability settings := by
      rw [read, Spec.mutabilitySaid, known]
      rfl
    refine iff_of_false (by simp [same]) ?_
    rintro ⟨m, named, _⟩
    have understood := Mutability.ofWord?_eq_some.mpr named
    rw [known] at understood
    cases understood
  | some m =>
    have named := Mutability.ofWord?_eq_some.mp known
    have seen : observed.spec.effectiveMutability settings = m := by
      rw [read, Spec.mutabilitySaid, known]
      rfl
    rw [seen]
    constructor
    · intro differs
      refine ⟨m, named, fun same => ?_⟩
      simp [same] at differs
    · rintro ⟨n, same, differs⟩
      have understood := Mutability.ofWord?_eq_some.mpr same
      rw [known] at understood
      cases understood
      simp [differs]

theorem word_iff_known {word : String} (m : Mutability)
    (none : ¬ ∃ n : Mutability, word = n.word ∧ n ≠ m) :
    word = m.word ↔ ∃ n : Mutability, word = n.word := by
  constructor
  · intro same
    exact ⟨m, same⟩
  · rintro ⟨n, same⟩
    by_contra other
    exact none ⟨n, same, fun h => other (h ▸ same)⟩

namespace Ecr

theorem replays_replied {body : Json} {replies u : List Reply} {q : Request}
    {answer : Except RemoteError q.Reply} {xs : List Exchange}
    (replays : Replays remote (.ok body :: replies) (⟨q, answer⟩ :: xs) u) :
    answer = .ok (granted q body) := by
  cases replays with
  | cons answered rest => exact (congrArg Prod.fst answered).symm

theorem find_described {body v : Json} {name : String}
    (listed : (items body "repositories").find? (text? · "repositoryName" = some name) = some v) :
    ((items body "repositories").map candidate).find? (·.name = some name) = some (candidate v) := by
  rw [List.find?_map]
  exact congrArg (Option.map candidate) listed

end Ecr

variable {body v : Json} {word : String} {xs : List Exchange} {outcome : Outcome}
  {limit : Option Nat} {replies u : List Ecr.Reply}

theorem described_mutability {r : Snapshot} {candidates : List Candidate} {ys : List Exchange}
    (named : desired.name ≠ "")
    (listed : (Ecr.items body "repositories").find?
      (Ecr.text? · "repositoryName" = some desired.name) = some v)
    (said : Ecr.text? v "imageTagMutability" = some word)
    (found : Lookup.among (desired.sought latest) candidates settings = .found r)
    (replays : Replays Ecr.remote (.ok body :: replies)
      (⟨(desired.sought latest).description, .ok candidates⟩ :: ys) u)
    (policy lifecycle : Option String) (tags : List Tag) :
    (r.filledIn policy lifecycle tags).spec.mutability = desired.spec.mutabilitySaid word := by
  cases Ecr.replays_replied replays
  obtain ⟨c, picked, rfl⟩ := @among_picked (desired.sought latest) r _ _ named found
  cases picked.symm.trans (Ecr.find_described listed)
  have parsed : (Ecr.candidate v).mutability = Mutability.ofWord? word := by
    rw [Ecr.candidate, said]
    rfl
  rw [Spec.mutabilitySaid, ← parsed]
  rfl

theorem put_iff_reconciling (named : desired.name ≠ "")
    (unblocked : retryBlocked settings desired latest = false)
    (listed : (Ecr.items body "repositories").find?
      (Ecr.text? · "repositoryName" = some desired.name) = some v)
    (said : Ecr.text? v "imageTagMutability" = some word)
    (course : Reconciling limit settings desired (some latest) xs (.ok outcome))
    (replays : Replays Ecr.remote (.ok body :: replies) xs u) :
    ((∃ q ∈ xs.map Exchange.request, q.operation = .putMutability) ↔
      ∃ m : Mutability, word = m.word ∧ m ≠ desired.spec.effectiveMutability settings) ∧
    (outcome.state = .inSync → ∀ q ∈ xs.map Exchange.request, q.operation ≠ .putMutability) := by
  generalize ended : (.ok outcome : Except Failure Outcome) = res at course
  cases course with
  | unnamed nameless => cases ended
  | blocked failed => simp [unblocked] at failed
  | undescribed stop => cases ended
  | @recreated latest answer xs res absent creation =>
    cases Ecr.replays_replied replays
    cases absent with
    | others unfound =>
      have own : (Ecr.candidate v).name = some desired.name := by
        simpa using List.find?_some (Ecr.find_described listed)
      have member := List.mem_of_find?_eq_some (Ecr.find_described listed)
      exact absurd own (@among_unfound (desired.sought latest) _ _ unfound _ member)
  | unread found stop => cases ended
  | placeless found placeless read => cases ended
  | @current latest r candidates arn policy lifecycle tags found located read same =>
    have seen := described_mutability named listed said found replays policy.toOption
      lifecycle.toOption tags
    have agrees := differsAt_of_kept same (show Field.mutability ∈ Field.pushed by decide)
    have kept : ∀ q ∈ List.map Exchange.request [⟨(desired.sought latest).description,
        .ok candidates⟩, ⟨.getPolicy r.target, policy⟩, ⟨.getLifecycle r.target, lifecycle⟩,
        ⟨.listTags arn, .ok tags⟩], q.operation ≠ .putMutability := by simp [Snapshot.description]
    refine ⟨?_, fun _ => kept⟩
    rw [← differs_said settings seen, agrees]
    refine iff_of_false ?_ Bool.false_ne_true
    rintro ⟨q, member, put⟩
    exact kept q member put
  | @pushed latest r candidates arn policy lifecycle tags xs stop found located read differs sent =>
    have seen := described_mutability named listed said found replays policy.toOption
      lifecycle.toOption tags
    cases stop with
    | some f => cases ended
    | none =>
      cases ended
      refine ⟨?_, fun inSync => by cases inSync⟩
      rw [← differs_said settings seen, ← plan_putMutability, ← sent.requests_all]
      simp [Snapshot.description]

/-- A pass over a repository that the service describes corrects a mutability that it understands and
    that is not the desired one. What it leaves in sync is as desired exactly if it is understood. -/
theorem mutability_corrected_iff
    (unblocked : retryBlocked settings desired latest = false)
    (listed : (Ecr.items body "repositories").find?
      (Ecr.text? · "repositoryName" = some desired.name) = some v)
    (said : Ecr.text? v "imageTagMutability" = some word)
    (ended : ((reconcile settings desired (some latest)).run Ecr.remote limit
      (.ok body :: replies)).result = .ok outcome) :
    let calls := ((reconcile settings desired (some latest)).run Ecr.remote limit
      (.ok body :: replies)).calls
    ((∃ q ∈ calls, q.operation = .putMutability) ↔
      ∃ m : Mutability, word = m.word ∧ m ≠ desired.spec.effectiveMutability settings) ∧
    (outcome.state = .inSync → (∀ q ∈ calls, q.operation ≠ .putMutability) ∧
      (word = (desired.spec.effectiveMutability settings).word ↔
        ∃ m : Mutability, word = m.word)) := by
  intro calls
  have named : desired.name ≠ "" := by
    intro nameless
    rw [reconcile, if_pos nameless] at ended
    cases ended
  have course := course_of_attempt Ecr.remote limit (reconcile settings desired (some latest))
    (.ok body :: replies)
  have replays := course_replays course
  have reconciling := reconciling_of_course course
  rw [ended] at reconciling
  obtain ⟨put, quiet⟩ := put_iff_reconciling named unblocked listed said reconciling replays
  rw [Attempt.exchanges_requests] at put quiet
  refine ⟨put, fun inSync => ⟨quiet inSync, word_iff_known _ fun other => ?_⟩⟩
  obtain ⟨q, member, pushed⟩ := put.mpr other
  exact quiet inSync q member pushed

end

def immutableApp : Snapshot where
  spec := { name := "app", mutability := some .immutable }

def describedAs (word : String) : Json :=
  .object [("repositories", .array [.object [("repositoryName", .string "app"),
    ("repositoryArn", .string (Registry.arnOf "app")), ("imageTagMutability", .string word)]])]

def saying (word : String) : List Ecr.Reply :=
  .ok (describedAs word) :: List.replicate 4 (.ok (.object []))

theorem mutable_repository_is_corrected :
    let t := (reconcile (.of "123456789012" "us-west-2") immutableApp (some (.named "app"))).run
      Ecr.remote none (saying "MUTABLE")
    (∃ outcome, t.result = .ok outcome ∧ outcome.state = .converged) ∧
      ∃ q ∈ t.calls, q.operation = .putMutability := by
  refine ⟨⟨_, rfl, rfl⟩, ?_⟩
  obtain ⟨put, _⟩ := @mutability_corrected_iff (.of "123456789012" "us-west-2") immutableApp
    (.named "app") (describedAs "MUTABLE") _ "MUTABLE" _ none (List.replicate 4 (.ok (.object [])))
    rfl rfl rfl rfl
  exact put.mpr ⟨.mutable, rfl, by decide⟩

theorem unknown_mutability_passes_for_desired :
    let settings := Settings.of "123456789012" "us-west-2"
    let t := (reconcile settings immutableApp (some (.named "app"))).run Ecr.remote none
      (saying "IMMUTABLE_WITH_EXCLUSION")
    ((Ecr.items (describedAs "IMMUTABLE_WITH_EXCLUSION") "repositories").find?
      (Ecr.text? · "repositoryName" = some "app")).bind (Ecr.text? · "imageTagMutability") =
        some "IMMUTABLE_WITH_EXCLUSION" ∧
    (∃ outcome, t.result = .ok outcome ∧ outcome.state = .inSync) ∧
      (∀ q ∈ t.calls, q.operation ≠ .putMutability) ∧
      "IMMUTABLE_WITH_EXCLUSION" ≠ (immutableApp.spec.effectiveMutability settings).word := by
  refine ⟨rfl, ⟨_, rfl, rfl⟩, ?_, ?_⟩
  · decide +kernel
  · decide

end Registrar
