import Registrar.Proofs.Holding
import Registrar.Proofs.TagStore

/- The changes that are due: what would still have to be asked of the registry for a repository to be
   as desired. Making the first of them leaves exactly the others, so that after any part of them
   the rest is due. -/
namespace Registrar

namespace Stored

def agreesAt (settings : Settings) (desired : Snapshot) (s : Stored) : Field → Bool
  | .scanning => s.scanOnPush == desired.spec.scansOnPush settings
  | .mutability => s.mutability == desired.spec.effectiveMutability settings
  | .encryption =>
    (Difference.encryption desired.spec { name := s.name, encryption := some s.encryption }).isNone
  | .lifecyclePolicy => samePolicy s.lifecyclePolicy desired.spec.lifecyclePolicy
  | .policy => samePolicy s.policy desired.spec.policy
  | .tags => sameTags s.tags desired.spec.tags

def dueAt (settings : Settings) (desired : Snapshot) (s : Stored) (f : Field) : List Request :=
  if s.agreesAt settings desired f then []
  else f.requests settings desired (Registry.arnOf s.name) s.tags

def due (settings : Settings) (desired : Snapshot) (s : Stored) : List Request :=
  Field.pushed.flatMap (s.dueAt settings desired)

def sameAt (s t : Stored) : Field → Prop
  | .scanning => s.scanOnPush = t.scanOnPush
  | .mutability => s.mutability = t.mutability
  | .encryption => s.encryption = t.encryption
  | .lifecyclePolicy => s.lifecyclePolicy = t.lifecyclePolicy
  | .policy => s.policy = t.policy
  | .tags => s.tags = t.tags

end Stored

def Request.field? : Request → Option Field
  | .putScanning _ _ => some .scanning
  | .putMutability _ _ => some .mutability
  | .putLifecycle _ _ | .deleteLifecycle _ => some .lifecyclePolicy
  | .setPolicy _ _ | .deletePolicy _ => some .policy
  | .tag _ _ | .untag _ _ => some .tags
  | _ => none

inductive Request.Pushes (t : Target) (arn : String) : Request → Prop where
  | scanning (onPush : Bool) : Pushes t arn (.putScanning t onPush)
  | mutability (m : Mutability) : Pushes t arn (.putMutability t m)
  | lifecycle (text : String) : Pushes t arn (.putLifecycle t text)
  | noLifecycle : Pushes t arn (.deleteLifecycle t)
  | policy (text : String) : Pushes t arn (.setPolicy t text)
  | noPolicy : Pushes t arn (.deletePolicy t)
  | untag (keys : List String) : Pushes t arn (.untag arn keys)
  | tag (tags : List Tag) : Pushes t arn (.tag arn tags)

section
variable {settings : Settings} {desired : Snapshot} {s : Stored}

theorem requests_push {arn : String} {old : List Tag} {f : Field} {q : Request}
    (member : q ∈ f.requests settings desired arn old) : q.Pushes desired.target arn := by
  cases f with
  | scanning =>
    cases List.mem_singleton.mp member
    exact .scanning _
  | mutability =>
    cases List.mem_singleton.mp member
    exact .mutability _
  | encryption => cases member
  | lifecyclePolicy =>
    rw [Field.requests] at member
    split at member <;> cases List.mem_singleton.mp member
    · exact .lifecycle _
    · exact .noLifecycle
  | policy =>
    rw [Field.requests] at member
    split at member <;> cases List.mem_singleton.mp member
    · exact .policy _
    · exact .noPolicy
  | tags =>
    rw [Field.requests] at member
    rcases List.mem_append.mp member with member | member
    · split at member
      · cases List.mem_singleton.mp member
        exact .untag _
      · cases member
    · split at member
      · cases List.mem_singleton.mp member
        exact .tag _
      · cases member

theorem requests_field {arn : String} {old : List Tag} {f : Field} {q : Request}
    (member : q ∈ f.requests settings desired arn old) : q.field? = some f := by
  cases f with
  | scanning => simp_all [Field.requests, Request.field?]
  | mutability => simp_all [Field.requests, Request.field?]
  | encryption => cases member
  | lifecyclePolicy =>
    rw [Field.requests] at member
    split at member <;> simp_all [Request.field?]
  | policy =>
    rw [Field.requests] at member
    split at member <;> simp_all [Request.field?]
  | tags =>
    rw [Field.requests, List.mem_append] at member
    rcases member with member | member <;> split at member <;> simp_all [Request.field?]

theorem dueAt_field {f : Field} {q : Request} (member : q ∈ s.dueAt settings desired f) :
    q.field? = some f := by
  rw [Stored.dueAt] at member
  split at member
  · cases member
  · exact requests_field member

theorem Stored.sameAt.trans {f : Field} {s t u : Stored} (first : s.sameAt t f)
    (second : t.sameAt u f) : s.sameAt u f := by
  cases f <;> exact Eq.trans first second

theorem sameAt_after {f : Field} {q : Request} (other : q.field? ≠ some f) :
    (s.after q).sameAt s f := by
  cases q <;> cases f <;> first | rfl | exact absurd rfl other

theorem sameAt_afterAll {f : Field} {qs : List Request} (others : ∀ q ∈ qs, q.field? ≠ some f) :
    (s.afterAll qs).sameAt s f := by
  induction qs generalizing s with
  | nil => cases f <;> rfl
  | cons q qs ih =>
    obtain ⟨head, others⟩ := List.forall_mem_cons.mp others
    exact (ih others).trans (sameAt_after head)

theorem dueAt_congr {f : Field} {t : Stored} (same : t.sameAt s f) (name : t.name = s.name) :
    t.dueAt settings desired f = s.dueAt settings desired f := by
  have agrees : t.agreesAt settings desired f = s.agreesAt settings desired f := by
    cases f <;> simp_all [Stored.agreesAt, Stored.sameAt]
  rw [Stored.dueAt, Stored.dueAt, agrees, name]
  cases f with
  | tags => rw [show t.tags = s.tags from same]
  | _ => rfl

theorem dueAt_after {f : Field} {q : Request} (other : q.field? ≠ some f) :
    (s.after q).dueAt settings desired f = s.dueAt settings desired f :=
  dueAt_congr (sameAt_after other) (s.after_name q)

theorem dueAt_of_agrees {f : Field} (agrees : s.agreesAt settings desired f = true) :
    s.dueAt settings desired f = [] := if_pos agrees

theorem agrees_of_dueAt {f : Field} (pushed : f ∈ Field.pushed)
    (nothing : s.dueAt settings desired f = []) : s.agreesAt settings desired f = true := by
  by_cases agrees : s.agreesAt settings desired f = true
  · exact agrees
  rw [Stored.dueAt, if_neg agrees] at nothing
  cases f with
  | scanning => cases nothing
  | mutability => cases nothing
  | encryption => exact absurd pushed (by decide)
  | lifecyclePolicy =>
    rw [Field.requests] at nothing
    split at nothing <;> cases nothing
  | policy =>
    rw [Field.requests] at nothing
    split at nothing <;> cases nothing
  | tags =>
    rw [Field.requests, List.append_eq_nil_iff] at nothing
    rw [Stored.agreesAt, sameTags, TagDelta.isEmpty_iff]
    constructor
    · by_contra more
      simp [more] at nothing
    · by_contra more
      simp [more] at nothing

theorem due_eq_nil_iff :
    s.due settings desired = [] ↔ ∀ f ∈ Field.pushed, s.agreesAt settings desired f = true := by
  rw [Stored.due, List.flatMap_eq_nil_iff]
  exact ⟨fun h f pushed => agrees_of_dueAt pushed (h f pushed),
    fun h f pushed => dueAt_of_agrees (h f pushed)⟩

theorem samePolicy_desired {text : Option String} {stated : String}
    (h : nonEmptyText text = some stated) : samePolicy (some stated) text = true := by
  have same : text = some stated := (Option.filter_eq_some_iff.mp h).1
  simp [same, samePolicy, sameText]

theorem samePolicy_none {text : Option String} (h : nonEmptyText text = none) :
    samePolicy none text = true := by
  have same : sameText none text = true :=
    (sameText_iff none text).mpr ((nonEmptyText_eq_none text).mp h).symm
  simp [samePolicy, same]

theorem dueAt_tags : s.dueAt settings desired .tags =
    Field.tags.requests settings desired (Registry.arnOf s.name) s.tags := by
  rw [Stored.dueAt]
  split
  · rename_i agrees
    rw [Stored.agreesAt, sameTags, TagDelta.isEmpty_iff] at agrees
    simp [Field.requests, agrees]
  · rfl

theorem dueAt_tags_after {q : Request} {more : List Request}
    (first : s.dueAt settings desired .tags = q :: more) :
    (s.after q).dueAt settings desired .tags = more := by
  rw [dueAt_tags] at first ⊢
  rw [Field.requests] at first ⊢
  by_cases kept : (TagDelta.between s.tags desired.spec.tags).removed = []
  · by_cases none : (TagDelta.between s.tags desired.spec.tags).upserts = []
    · simp [kept, none] at first
    · simp only [kept, none, ne_eq, not_true_eq_false, not_false_eq_true, if_true, if_false,
        List.nil_append, List.cons.injEq] at first
      obtain ⟨rfl, rfl⟩ := first
      have settled : sameTags (Tag.putAll s.tags
          (TagDelta.between s.tags desired.spec.tags).upserts) desired.spec.tags = true :=
        sameTags_iff.mpr (TagDelta.valueAt_upserts rfl kept)
      rw [sameTags, TagDelta.isEmpty_iff] at settled
      simp [Stored.after, settled]
  · simp only [kept, ne_eq, not_false_eq_true, if_true, List.singleton_append,
      List.cons.injEq] at first
    obtain ⟨rfl, rfl⟩ := first
    simp [Stored.after, TagDelta.between_untagged, TagDelta.upserts]

theorem dueAt_rest {f : Field} {q : Request} {more : List Request}
    (first : s.dueAt settings desired f = q :: more) :
    (s.after q).dueAt settings desired f = more := by
  by_cases agrees : s.agreesAt settings desired f = true
  · rw [dueAt_of_agrees agrees] at first
    cases first
  have asked := first
  rw [Stored.dueAt, if_neg agrees] at asked
  cases f with
  | scanning =>
    cases asked
    exact dueAt_of_agrees (by simp [Stored.agreesAt, Stored.after])
  | mutability =>
    cases asked
    exact dueAt_of_agrees (by simp [Stored.agreesAt, Stored.after])
  | encryption => cases asked
  | lifecyclePolicy =>
    rw [Field.requests] at asked
    split at asked <;> rename_i stated <;> cases asked
    · exact dueAt_of_agrees (samePolicy_desired stated)
    · exact dueAt_of_agrees (samePolicy_none stated)
  | policy =>
    rw [Field.requests] at asked
    split at asked <;> rename_i stated <;> cases asked
    · exact dueAt_of_agrees (samePolicy_desired stated)
    · exact dueAt_of_agrees (samePolicy_none stated)
  | tags => exact dueAt_tags_after first

theorem due_rest {fs : List Field} (distinct : fs.Nodup) {q : Request} {rest : List Request}
    (first : fs.flatMap (s.dueAt settings desired) = q :: rest) :
    fs.flatMap ((s.after q).dueAt settings desired) = rest := by
  -- The first change belongs to the first field where any is due, and leaves all later fields alone.
  induction fs with
  | nil => cases first
  | cons f fs ih =>
    obtain ⟨fresh, distinct⟩ := List.nodup_cons.mp distinct
    rw [List.flatMap_cons] at first ⊢
    cases here : s.dueAt settings desired f with
    | nil =>
      rw [here, List.nil_append] at first
      obtain ⟨g, member, asked⟩ := List.mem_flatMap.mp (first ▸ List.mem_cons_self : q ∈ _)
      have other : q.field? ≠ some f := by
        rw [dueAt_field asked]
        rintro ⟨⟩
        exact fresh member
      rw [dueAt_after other, here, List.nil_append]
      exact ih distinct first
    | cons p more =>
      rw [here, List.cons_append] at first
      cases first
      have mine : q.field? = some f := dueAt_field (here ▸ List.mem_cons_self)
      rw [dueAt_rest here]
      refine congrArg (more ++ ·) (List.flatMap_congr fun g member => dueAt_after ?_)
      rw [mine]
      rintro ⟨⟩
      exact fresh member

/-- After any first part of what was due, the rest is due. -/
theorem due_after {done rest : List Request} (whole : s.due settings desired = done ++ rest) :
    (s.afterAll done).due settings desired = rest := by
  induction done generalizing s with
  | nil => exact whole
  | cons q done ih => exact ih (due_rest (by decide) whole)

theorem requests_taken (name : desired.name = s.name) {f : Field} {q : Request}
    (asked : q ∈ s.dueAt settings desired f) : s.takes q := by
  rw [Stored.dueAt] at asked
  split at asked
  · cases asked
  rename_i differs
  cases f with
  | scanning =>
    cases List.mem_singleton.mp asked
    exact name
  | mutability =>
    cases List.mem_singleton.mp asked
    exact name
  | encryption => cases asked
  | lifecyclePolicy =>
    rw [Field.requests] at asked
    split at asked <;> rename_i stated <;> cases List.mem_singleton.mp asked
    · exact name
    · refine ⟨name, fun none => differs ?_⟩
      rw [Stored.agreesAt, none]
      exact samePolicy_none stated
  | policy =>
    rw [Field.requests] at asked
    split at asked <;> rename_i stated <;> cases List.mem_singleton.mp asked
    · exact name
    · refine ⟨name, fun none => differs ?_⟩
      rw [Stored.agreesAt, none]
      exact samePolicy_none stated
  | tags =>
    rw [Field.requests, List.mem_append] at asked
    rcases asked with asked | asked
    · split at asked
      · cases List.mem_singleton.mp asked
        rfl
      · cases asked
    · split at asked
      · cases List.mem_singleton.mp asked
        rfl
      · cases asked

theorem due_taken (name : desired.name = s.name) : Taken s (s.due settings desired) := by
  generalize whole : s.due settings desired = qs
  induction qs generalizing s with
  | nil => exact .nil s
  | cons q qs ih =>
    obtain ⟨f, _, asked⟩ := List.mem_flatMap.mp (whole ▸ List.mem_cons_self : q ∈ _)
    exact .cons (requests_taken name asked)
      (ih (by rw [Stored.after_name, name]) (due_rest (by decide) whole))

end

end Registrar
