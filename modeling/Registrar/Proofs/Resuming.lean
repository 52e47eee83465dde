import Mathlib.Data.List.Nodup
import Registrar.Proofs.Settling

/- A pass that was interrupted, and the next one. What was granted before the interruption is in the
   repository and is not asked for again; what was not is left as it was, and is all that the next
   pass asks for. -/
namespace Registrar

/-- What making the changes `done` has left of a repository. A field has all its changes made, or
    none; tags may also have those keys removed that go, before those are set that come. -/
structure Interrupted (settings : Settings) (desired : Snapshot) (before : Stored)
    (done : List Request) (after : Stored) : Prop where
  completed : ∀ f ∈ Field.pushed, (∀ q ∈ before.dueAt settings desired f, q ∈ done) →
    after.agreesAt settings desired f = true
  untouched : ∀ f, (∀ q ∈ before.dueAt settings desired f, q ∉ done) → after.sameAt before f
  untagged : (∃ q ∈ done, q.operation = .untag) → (∀ q ∈ done, q.operation ≠ .tag) →
    after.tags = Tag.dropKeys before.tags (TagDelta.between before.tags desired.spec.tags).removed
  encryption : after.encryption = before.encryption

section
variable {settings : Settings} {desired : Snapshot} {s : Stored}

theorem mem_dueAt_of_due {f : Field} {q : Request} (asked : q ∈ s.due settings desired)
    (mine : q.field? = some f) : q ∈ s.dueAt settings desired f := by
  obtain ⟨g, _, there⟩ := List.mem_flatMap.mp asked
  cases (dueAt_field there).symm.trans mine
  exact there

theorem dueAt_nodup (f : Field) : (s.dueAt settings desired f).Nodup := by
  rw [Stored.dueAt]
  split
  · exact .nil
  cases f with
  | scanning => exact List.nodup_singleton _
  | mutability => exact List.nodup_singleton _
  | encryption => exact .nil
  | lifecyclePolicy =>
    rw [Field.requests]
    split <;> exact List.nodup_singleton _
  | policy =>
    rw [Field.requests]
    split <;> exact List.nodup_singleton _
  | tags =>
    rw [Field.requests]
    split <;> split <;> simp

theorem due_nodup : (s.due settings desired).Nodup := by
  refine List.nodup_flatMap.mpr ⟨fun f _ => dueAt_nodup f, ?_⟩
  have distinct : Field.pushed.Pairwise (· ≠ ·) := by decide
  refine distinct.imp fun other q first second => other ?_
  exact Option.some.inj ((dueAt_field first).symm.trans (dueAt_field second))

theorem mem_dueAt_tags {q : Request} (asked : q ∈ s.dueAt settings desired .tags) :
    q = .untag (Registry.arnOf s.name) (TagDelta.between s.tags desired.spec.tags).removed ∨
      q = .tag (Registry.arnOf s.name) (TagDelta.between s.tags desired.spec.tags).upserts := by
  rw [dueAt_tags, Field.requests, List.mem_append] at asked
  rcases asked with asked | asked
  · split at asked
    · exact .inl (List.mem_singleton.mp asked)
    · cases asked
  · split at asked
    · exact .inr (List.mem_singleton.mp asked)
    · cases asked

theorem tags_untagged {done rest : List Request} (parted : s.due settings desired = done ++ rest)
    (untag : ∃ q ∈ done, q.operation = .untag) (notag : ∀ q ∈ done, q.operation ≠ .tag) :
    (s.afterAll done).tags =
      Tag.dropKeys s.tags (TagDelta.between s.tags desired.spec.tags).removed := by
  have choice {q : Request} (member : q ∈ done) (mine : q.field? = some .tags) :
      q = .untag (Registry.arnOf s.name) (TagDelta.between s.tags desired.spec.tags).removed := by
    have asked : q ∈ s.due settings desired := parted ▸ List.mem_append_left rest member
    rcases mem_dueAt_tags (mem_dueAt_of_due asked mine) with same | rfl
    · exact same
    · exact absurd rfl (notag _ member)
  obtain ⟨q, member, untags⟩ := untag
  obtain rfl := choice member (by cases q <;> first | rfl | cases untags)
  obtain ⟨first, last, rfl⟩ := List.append_of_mem member
  -- Before and after the removal nothing is about tags, since it is not made twice.
  have distinct : (first ++ _ :: last).Nodup := (parted ▸ due_nodup).of_append_left
  obtain ⟨_, later, apart⟩ := List.nodup_append.mp distinct
  have firsts : (s.afterAll first).sameAt s .tags := by
    refine sameAt_afterAll fun p early mine => ?_
    exact apart p early _ List.mem_cons_self (choice (List.mem_append_left _ early) mine)
  have lasts (t : Stored) : (t.afterAll last).sameAt t .tags := by
    refine sameAt_afterAll fun p late mine => (List.nodup_cons.mp later).1 ?_
    exact choice (List.mem_append_right _ (List.mem_cons_of_mem _ late)) mine ▸ late
  rw [Stored.afterAll, List.foldl_append, List.foldl_cons]
  refine Eq.trans (lasts _) ?_
  exact congrArg (Tag.dropKeys · _) firsts

theorem interrupted_of_parted {done rest : List Request}
    (parted : s.due settings desired = done ++ rest) :
    Interrupted settings desired s done (s.afterAll done) := by
  have distinct : (done ++ rest).Nodup := parted ▸ due_nodup
  have made {q : Request} (member : q ∈ done) : q ∈ s.due settings desired := by
    rw [parted]
    exact List.mem_append_left rest member
  refine ⟨fun f pushed all => ?_, fun f none => ?_, tags_untagged parted,
    s.afterAll_encryption done⟩
  · -- A change still due at the field would be of the rest, and yet made: no change is due twice.
    refine agrees_of_dueAt pushed (List.eq_nil_iff_forall_not_mem.mpr fun q asked => ?_)
    have late : q ∈ rest := by
      rw [← due_after parted]
      exact List.mem_flatMap.mpr ⟨f, pushed, asked⟩
    have early : q ∈ done := by
      refine all q (mem_dueAt_of_due ?_ (dueAt_field asked))
      rw [parted]
      exact List.mem_append_right done late
    exact List.disjoint_of_nodup_append distinct early late
  · exact sameAt_afterAll fun q member mine =>
      none q (mem_dueAt_of_due (made member) mine) member

/-- However far a pass gets before an outage or a cancellation ends it, it leaves each field as it was
    or as desired. The next pass, undisturbed, asks for exactly what is still due, for nothing that
    was granted, and settles the repository. -/
theorem interrupted_pass_resumes {latest : Snapshot} {limit : Option Nat} {r : Registry}
    {before : Stored} (named : desired.name ≠ "")
    (unblocked : retryBlocked settings desired latest = false)
    (held : r.held? desired.name = some before)
    (foreign : ∀ c ∈ r.strays, c.name ≠ some desired.name)
    (unscripted : ∀ op, r.script op = [])
    (outages : ∀ op e, r.failing op = some e → e.isOutage = true) :
    let pass := reconcile settings desired (some latest)
    let first := pass.run Registry.remote limit r
    let done := grantedMutations (pass.exchanges Registry.remote limit r)
    let second := pass.run Registry.remote none first.state.healed
    ∃ after, first.state.held? desired.name = some after ∧
      Interrupted settings desired before done after ∧
      second.mutations = after.due settings desired ∧
      before.due settings desired = done ++ second.mutations ∧
      (∀ q ∈ done, q ∉ second.mutations) ∧
      ∃ outcome final, second.result = .ok outcome ∧
        outcome.state = (if second.mutations ≠ [] then .converged
          else if latest.isTerminal then .terminal else .inSync) ∧
        second.state.held? desired.name = some final ∧ Settled settings desired final ∧
        final.encryption = before.encryption := by
  intro pass first done second
  have name := Registry.held_name held
  have holds : Holds r before := ⟨name.symm ▸ held, name.symm ▸ foreign, unscripted, outages⟩
  obtain ⟨made, rest, advance⟩ :=
    reconcile_advances settings desired latest limit holds name.symm named unblocked
  obtain rfl : done = made := advance.granted
  have left : first.state = r.put (before.afterAll done) := advance.left
  have afterName : (before.afterAll done).name = desired.name := by
    rw [Stored.afterAll_name, name]
  have after : first.state.held? desired.name = some (before.afterAll done) := by
    rw [left, Registry.held_put, if_pos afterName]
  have calm : first.state.healed.Calm := ⟨fun _ => rfl, fun _ => rfl⟩
  have foreign' : ∀ c ∈ first.state.healed.strays, c.name ≠ some desired.name := by
    rw [left]
    exact foreign
  obtain ⟨settles, asked, result⟩ := reconcile_calm calm foreign' after named unblocked
  have still := due_after advance.parted
  have parted : before.due settings desired = done ++ second.mutations := by
    rw [advance.parted, asked, still]
  have distinct : (done ++ second.mutations).Nodup := parted ▸ due_nodup
  refine ⟨_, after, interrupted_of_parted advance.parted, asked, parted,
    fun q early late => List.disjoint_of_nodup_append distinct early late, _,
    (before.afterAll done).afterAll ((before.afterAll done).due settings desired), result, ?_, ?_,
    settled_afterAll, ?_⟩
  · rw [show second.mutations = _ from asked]
    by_cases nothing : (before.afterAll done).due settings desired = []
    · rw [if_pos nothing, if_neg (not_not.mpr nothing)]
      exact leftAlone_state _
    · rw [if_neg nothing, if_pos nothing]
      rfl
  · rw [show second.state = _ from settles, Registry.held_put, Stored.afterAll_name,
      if_pos afterName]
  · rw [Stored.afterAll_encryption, Stored.afterAll_encryption]

end

theorem half_tagged_repository_resumes :
    let pass := reconcile (.of "123456789012" "us-west-2") wanted (some (.named "app"))
    let first := pass.run Registry.remote none
      (drifted.withFailing .tag (.service "ThrottlingException" "slow down"))
    let second := pass.run Registry.remote none first.state.healed
    first.result = .error (.remote (.service "ThrottlingException" "slow down")) ∧
      second.mutations = [.tag (Registry.arnOf "app") [⟨"team", some "b"⟩]] ∧
      ∃ final, second.state.held? "app" = some final ∧
        Settled (.of "123456789012" "us-west-2") wanted final := by
  refine ⟨rfl, rfl, ?_⟩
  obtain ⟨_, _, _, _, _, _, _, final, _, _, held, settled, _⟩ := @interrupted_pass_resumes
    (.of "123456789012" "us-west-2") wanted (.named "app") none
    (drifted.withFailing .tag (.service "ThrottlingException" "slow down")) _ (by decide) rfl rfl
    (by decide) (fun _ => rfl) fun op e failing => by
      simp only [Registry.withFailing] at failing
      split at failing
      · cases failing
        rfl
      · cases failing
  exact ⟨final, held, settled⟩

/-- A repository of the empty name is refused before anything is asked, by the next pass too. -/
theorem nameless_repository_stays :
    let settings := Settings.of "123456789012" "us-west-2"
    let nameless : Snapshot := { spec := { name := "", scanning := some ⟨some true⟩ } }
    let r := Registry.withFailing { stored := [{ name := "" }] } .describe (.transport "down")
    let pass := reconcile settings nameless (some (.named ""))
    let first := pass.run Registry.remote none r
    let second := pass.run Registry.remote none first.state.healed
    retryBlocked settings nameless (.named "") = false ∧ r.held? "" = some { name := "" } ∧
      first.result = .error (.missingField "spec.name") ∧
      second.result = .error (.missingField "spec.name") ∧ second.mutations = [] ∧
      Stored.due settings nameless { name := "" } ≠ [] ∧
      second.state.held? "" = some { name := "" } ∧
      ¬ Settled settings nameless { name := "" } := by
  refine ⟨rfl, rfl, rfl, rfl, rfl, by decide, rfl, ?_⟩
  rintro ⟨scanning, _⟩
  exact absurd scanning (by decide)

end Registrar
