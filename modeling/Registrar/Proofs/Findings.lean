import Registrar.Proofs.Ending
import Registrar.Proofs.Isolation
import Registrar.Proofs.Sequence

/- What is found to differ is what is sent. Differences are found and requests are built from the same
   two snapshots by different rules for what is unset or empty; here the two are held against each
   other, change by change. -/
namespace Registrar

/-- The requests carry what the change says is new: the value itself, the removal of a policy where
    that is absent or empty, and for tags what makes the new ones of the old ones. -/
def Change.SentAs (c : Change) (t : Target) (arn : String) (qs : List Request) : Prop :=
  match c.field with
  | .scanning =>
    ∃ onPush, c.new = .object [("scan_on_push", .bool onPush)] ∧ qs = [.putScanning t onPush]
  | .mutability => ∃ m : Mutability, c.new = .string m.word ∧ qs = [.putMutability t m]
  | .encryption => qs = []
  | .lifecyclePolicy =>
    (∃ text, text ≠ "" ∧ c.new = .string text ∧ qs = [.putLifecycle t text]) ∨
      (c.new = .null ∨ c.new = .string "") ∧ qs = [.deleteLifecycle t]
  | .policy =>
    (∃ text, text ≠ "" ∧ c.new = .string text ∧ qs = [.setPolicy t text]) ∨
      (c.new = .null ∨ c.new = .string "") ∧ qs = [.deletePolicy t]
  | .tags =>
    ∃ old new : List Tag, c.old = Tag.listJson old ∧ c.new = Tag.listJson new ∧ qs ≠ [] ∧
      (∀ q ∈ qs, q.arn? = some arn) ∧
      sameTags (({ name := t.name, tags := old } : Stored).afterAll qs).tags new = true

namespace ChangeSet

theorem find_putChange (c : Change) (changes : List Change) (f : Field) :
    (putChange c changes).find? (·.field = f) =
      if c.field = f then some c else changes.find? (·.field = f) := by
  induction changes with
  | nil => by_cases mine : c.field = f <;> simp [putChange, mine]
  | cons d rest ih =>
    rw [putChange]
    by_cases same : d.field = c.field
    · by_cases mine : c.field = f <;> simp [same, mine]
    · rw [if_neg same, List.find?_cons, List.find?_cons, ih]
      by_cases mine : c.field = f
      · simp [← mine, same]
      · simp [mine]

theorem get?_addValues (s : ChangeSet) (f g : Field) (values : Difference.Values) :
    (s.addValues f values).get? g =
      if f = g then (values.map fun v => ⟨f, v.1, v.2⟩).or (s.get? g) else s.get? g := by
  cases values with
  | none => simp [addValues]
  | some v =>
    rw [addValues, add, get?, find_putChange]
    by_cases mine : f = g <;> simp [mine, get?]

theorem get?_betweenWith (find : Finder) (settings : Settings) (desired latest : Snapshot)
    (f : Field) : (betweenWith find settings desired latest).get? f =
      ((Difference.valueAt settings desired.spec latest.spec f).map fun v =>
        (⟨f, v.1, v.2⟩ : Change)).or ((find empty desired.spec latest.spec).get? f) := by
  simp only [betweenWith, Difference.byValue, List.foldl_cons, List.foldl_nil, get?_addValues]
  cases f <;> simp [Difference.valueAt]

end ChangeSet

section
variable {settings : Settings} {desired latest : Snapshot} {arn : String} {f : Field}

theorem get?_between : (ChangeSet.between settings desired latest).get? f =
    (Difference.at settings desired.spec latest.spec f).map fun v => ⟨f, v.1, v.2⟩ := by
  rw [ChangeSet.between, ChangeSet.get?_betweenWith, ChangeSet.findTags, ChangeSet.get?_addValues]
  cases f <;> simp [ChangeSet.empty, ChangeSet.get?, Difference.at, Difference.valueAt]

theorem policy_recorded {text seen : Option String} {old new : Json}
    (found : Difference.policy seen text = some (old, new)) :
    (∃ stated, nonEmptyText text = some stated ∧ stated ≠ "" ∧ new = .string stated) ∨
      nonEmptyText text = none ∧ (new = .null ∨ new = .string "") := by
  simp only [Difference.policy, Option.ite_none_left_eq_some, Option.some.injEq, Prod.mk.injEq] at found
  obtain ⟨_, _, rfl⟩ := found
  cases text with
  | none => exact .inr ⟨rfl, .inl rfl⟩
  | some stated =>
    by_cases empty : stated = ""
    · subst empty
      exact .inr ⟨rfl, .inr rfl⟩
    · exact .inl ⟨stated, by simp [nonEmptyText, Option.filter_some, empty], empty, rfl⟩

theorem tags_afterAll (s : Stored) (old : List Tag) (held : s.tags = old) :
    (s.afterAll (Field.tags.requests settings desired arn old)).tags =
      Tag.putAll (Tag.dropKeys old (TagDelta.between old desired.spec.tags).removed)
        (TagDelta.between old desired.spec.tags).upserts := by
  subst held
  rw [Field.requests]
  by_cases kept : (TagDelta.between s.tags desired.spec.tags).removed = []
  · by_cases none : (TagDelta.between s.tags desired.spec.tags).upserts = []
    · simp [kept, none, Stored.afterAll, Tag.dropKeys, Tag.putAll]
    · simp [kept, none, Stored.afterAll, Stored.after, Tag.dropKeys]
  · by_cases none : (TagDelta.between s.tags desired.spec.tags).upserts = []
    · simp [kept, none, Stored.afterAll, Stored.after, Tag.putAll]
    · simp [kept, none, Stored.afterAll, Stored.after]

theorem requests_sentAs {old new : Json}
    (found : Difference.at settings desired.spec latest.spec f = some (old, new)) :
    (⟨f, old, new⟩ : Change).SentAs desired.target arn
      (f.requests settings desired arn latest.spec.tags) := by
  cases f with
  | scanning =>
    simp only [Difference.at, Difference.valueAt, Difference.scanning,
      Option.ite_none_left_eq_some, Option.some.injEq, Prod.mk.injEq] at found
    obtain ⟨_, _, rfl⟩ := found
    exact ⟨_, rfl, rfl⟩
  | mutability =>
    simp only [Difference.at, Difference.valueAt, Difference.mutability,
      Option.ite_none_left_eq_some, Option.some.injEq, Prod.mk.injEq] at found
    obtain ⟨_, _, rfl⟩ := found
    exact ⟨_, rfl, rfl⟩
  | encryption => rfl
  | lifecyclePolicy =>
    rw [Field.requests]
    rcases policy_recorded found with ⟨text, stated, nonempty, new⟩ | ⟨none, new⟩
    · exact .inl ⟨text, nonempty, new, by rw [stated]⟩
    · exact .inr ⟨new, by rw [none]⟩
  | policy =>
    rw [Field.requests]
    rcases policy_recorded found with ⟨text, stated, nonempty, new⟩ | ⟨none, new⟩
    · exact .inl ⟨text, nonempty, new, by rw [stated]⟩
    · exact .inr ⟨new, by rw [none]⟩
  | tags =>
    have differs : (ChangeSet.between settings desired latest).differsAt .tags = true := by
      rw [differsAt_between, found]
      rfl
    simp only [Difference.at, Difference.tags, Option.ite_none_left_eq_some, Option.some.injEq,
      Prod.mk.injEq] at found
    obtain ⟨_, rfl, rfl⟩ := found
    refine ⟨latest.spec.tags, desired.spec.tags, rfl, rfl, ?_, ?_, ?_⟩
    · exact requests_ne_nil (by decide) differs arn
    · intro q asked
      have field := requests_field asked
      cases requests_push asked with
      | untag keys => rfl
      | tag tags => rfl
      | _ => cases field
    · rw [tags_afterAll _ _ rfl]
      exact sameTags_iff.mpr (TagDelta.valueAt_synchronised rfl)

theorem filter_requests (old : List Tag) {fs : List Field} (distinct : fs.Nodup) (f : Field) :
    (fs.flatMap (Field.requests settings desired arn old)).filter (·.field? = some f) =
      if f ∈ fs then f.requests settings desired arn old else [] := by
  induction fs with
  | nil => rfl
  | cons g fs ih =>
    obtain ⟨fresh, distinct⟩ := List.nodup_cons.mp distinct
    rw [List.flatMap_cons, List.filter_append, ih distinct]
    by_cases mine : f = g
    · subst mine
      have all : (f.requests settings desired arn old).filter (·.field? = some f) =
          f.requests settings desired arn old := by
        apply List.filter_eq_self.mpr
        intro q asked
        simp [requests_field asked]
      simp [all, fresh]
    · have none : (g.requests settings desired arn old).filter (·.field? = some f) = [] := by
        apply List.filter_eq_nil_iff.mpr
        intro q asked
        simp [requests_field asked, Ne.symm mine]
      simp [none, mine]

/-- If no request fails, pushing what was found to differ makes, for each change, the requests that
    carry its new value, and no request besides. Whether any is made is known from the changes. -/
theorem findings_are_sent (remote : Remote σ) (settings : Settings) {desired latest : Snapshot}
    {arn : String} (located : latest.arn = some arn) (s : σ)
    (passing : ∀ x ∈ (converge settings desired latest
      (.between settings desired latest)).exchanges remote none s, x.passed = true) :
    let changes := ChangeSet.between settings desired latest
    let t := (converge settings desired latest changes).run remote none s
    t.result = .ok desired ∧ (changes.needsRequests = true ↔ t.calls ≠ []) ∧
      (∀ f c, changes.get? f = some c →
        c.field = f ∧ c.SentAs desired.target arn (t.calls.filter (·.field? = some f))) ∧
      ∀ q ∈ t.calls, ∃ f c, q.field? = some f ∧ changes.get? f = some c := by
  intro changes t
  have course := course_of_attempt remote none (converge settings desired latest changes) s
  have placed : ¬ changes.Placeless desired latest := fun none => by simp [none.2.1] at located
  obtain ⟨stop, run, result⟩ := course_converge (located_of_not_placeless placed) course
  obtain rfl := run.stop_none_iff.mpr passing
  have calls : t.calls = changes.plan settings desired latest := by
    rw [← run.requests_all]
    exact (Attempt.exchanges_requests remote none _ s).symm
  have known : latest.arn.or desired.arn = some arn := by simp [located]
  have asked : t.calls = (Field.pushed.filter changes.differsAt).flatMap
      (Field.requests settings desired arn latest.spec.tags) := by
    rw [calls, ChangeSet.plan, known]
    rfl
  refine ⟨result, ?_, ?_, ?_⟩
  · constructor
    · intro needed none
      apply plan_mutates needed
      rw [← calls, none]
      rfl
    · intro some
      obtain ⟨q, made⟩ := List.exists_mem_of_ne_nil _ some
      rw [asked] at made
      obtain ⟨f, chosen, _⟩ := List.mem_flatMap.mp made
      exact List.any_eq_true.mpr ⟨f, List.mem_filter.mp chosen⟩
  · intro f c found
    have found : (Difference.at settings desired.spec latest.spec f).map
        (fun v => (⟨f, v.1, v.2⟩ : Change)) = some c := get?_between.symm.trans found
    obtain ⟨⟨old, new⟩, differs, rfl⟩ := Option.map_eq_some_iff.mp found
    have changed : changes.differsAt f = true := by
      rw [differsAt_between, differs]
      rfl
    have own : t.calls.filter (·.field? = some f) =
        f.requests settings desired arn latest.spec.tags := by
      rw [asked, filter_requests _ (List.Nodup.sublist List.filter_sublist (by decide))]
      split <;> rename_i chosen
      · rfl
      · -- Only encryption is not pushed, and it asks for nothing.
        have unpushed : f ∉ Field.pushed :=
          fun pushed => chosen (List.mem_filter.mpr ⟨pushed, changed⟩)
        cases f with
        | encryption => rfl
        | _ => exact absurd (by decide) unpushed
    rw [own]
    exact ⟨rfl, requests_sentAs differs⟩
  · intro q made
    rw [asked] at made
    obtain ⟨f, chosen, mine⟩ := List.mem_flatMap.mp made
    have differs := (List.mem_filter.mp chosen).2
    rw [differsAt_between] at differs
    obtain ⟨v, found⟩ := Option.isSome_iff_exists.mp differs
    refine ⟨f, ⟨f, v.1, v.2⟩, requests_field mine, ?_⟩
    rw [get?_between, found]
    rfl

end

def seenDrifted : Snapshot where
  spec := { name := "app", scanning := some ⟨some true⟩, policy := some "\x7b\x7d"
            tags := [⟨"team", some "a"⟩, ⟨"old", none⟩] }
  status := { arn := some (Registry.arnOf "app") }

theorem drifted_findings_are_sent :
    let settings := Settings.of "123456789012" "us-west-2"
    let changes := ChangeSet.between settings wanted seenDrifted
    let t := (converge settings wanted seenDrifted changes).run Registry.remote none drifted
    seenDrifted.arn = some (Registry.arnOf "app") ∧
      changes.fields = [.tags, .scanning, .mutability, .lifecyclePolicy, .policy] ∧
      t.result = .ok wanted ∧ t.calls ≠ [] ∧
      ∀ f c, changes.get? f = some c → c.field = f ∧
        c.SentAs wanted.target (Registry.arnOf "app") (t.calls.filter (·.field? = some f)) := by
  intro settings changes t
  have passing : ∀ x ∈ (converge settings wanted seenDrifted changes).exchanges Registry.remote none
      drifted, x.passed = true := by decide +kernel
  obtain ⟨result, needed, sent, _⟩ :=
    @findings_are_sent _ Registry.remote settings wanted seenDrifted _ rfl drifted passing
  exact ⟨rfl, by decide +kernel, result, needed.mp (by decide +kernel), sent⟩

end Registrar
