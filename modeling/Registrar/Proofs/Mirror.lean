import Registrar.Proofs.Findings
import Registrar.Proofs.Sameness

/- Comparing two snapshots the other way round. A field that does not differ is the same in the sense
   of an equivalence, a different one for each field, and what differs is found in the same places with
   old and new values exchanged. -/
namespace Registrar

def Change.mirrored (c : Change) : Change := ⟨c.field, c.new, c.old⟩

def Field.compared : List Field := .tags :: Difference.byValue

/-- What it takes for two specs to have no difference at a field. -/
def Difference.Agree (settings : Settings) : Field → Spec → Spec → Prop
  | .scanning, a, b => a.scansOnPush settings = b.scansOnPush settings
  | .mutability, a, b => a.effectiveMutability settings = b.effectiveMutability settings
  | .encryption, a, b => a.encryptionKind = b.encryptionKind ∧
      textOrEmpty a.encryptionKey = textOrEmpty b.encryptionKey
  | .lifecyclePolicy, a, b => samePolicy a.lifecyclePolicy b.lifecyclePolicy = true
  | .policy, a, b => samePolicy a.policy b.policy = true
  | .tags, a, b => ∀ key, Tag.valueAt a.tags key = Tag.valueAt b.tags key

def Difference.stated (settings : Settings) : Field → Spec → Json
  | .scanning, s => .object [("scan_on_push", .bool (s.scansOnPush settings))]
  | .mutability, s => (s.effectiveMutability settings).json
  | .encryption, s => encryptionJson s
  | .lifecyclePolicy, s => .ofText s.lifecyclePolicy
  | .policy, s => .ofText s.policy
  | .tags, s => Tag.listJson s.tags

namespace Difference
variable {settings : Settings}

theorem agree_equivalence (f : Field) : Equivalence (Agree settings f) := by
  cases f with
  | scanning => exact ⟨fun _ => rfl, Eq.symm, Eq.trans⟩
  | mutability => exact ⟨fun _ => rfl, Eq.symm, Eq.trans⟩
  | encryption =>
    exact ⟨fun _ => ⟨rfl, rfl⟩, fun h => ⟨h.1.symm, h.2.symm⟩,
      fun h k => ⟨h.1.trans k.1, h.2.trans k.2⟩⟩
  | lifecyclePolicy =>
    exact ⟨fun _ => samePolicy_equivalence.refl _, samePolicy_equivalence.symm,
      samePolicy_equivalence.trans⟩
  | policy =>
    exact ⟨fun _ => samePolicy_equivalence.refl _, samePolicy_equivalence.symm,
      samePolicy_equivalence.trans⟩
  | tags =>
    exact ⟨fun _ _ => rfl, fun h key => (h key).symm, fun h k key => (h key).trans (k key)⟩

theorem at_of_agree {a b : Spec} {f : Field} (same : Agree settings f a b) :
    Difference.at settings a b f = none := by
  cases f with
  | scanning => exact if_pos same.symm
  | mutability => exact if_pos same.symm
  | encryption => exact if_pos ⟨same.1.symm, (sameText_iff _ _).mpr same.2.symm⟩
  | lifecyclePolicy => exact if_pos (samePolicy_equivalence.symm same)
  | policy => exact if_pos (samePolicy_equivalence.symm same)
  | tags => exact if_pos (sameTags_iff.mpr fun key => (same key).symm)

theorem at_of_differ {a b : Spec} {f : Field} (differs : ¬ Agree settings f a b) :
    Difference.at settings a b f = some (stated settings f b, stated settings f a) := by
  cases f with
  | scanning => exact if_neg (differs ∘ Eq.symm)
  | mutability => exact if_neg (differs ∘ Eq.symm)
  | encryption =>
    exact if_neg fun same => differs ⟨same.1.symm, ((sameText_iff _ _).mp same.2).symm⟩
  | lifecyclePolicy => exact if_neg (differs ∘ samePolicy_equivalence.symm)
  | policy => exact if_neg (differs ∘ samePolicy_equivalence.symm)
  | tags => exact if_neg fun same => differs fun key => (sameTags_iff.mp same key).symm

theorem at_eq_none_iff {a b : Spec} {f : Field} :
    Difference.at settings a b f = none ↔ Agree settings f a b := by
  constructor
  · intro none
    by_contra differs
    cases none.symm.trans (at_of_differ differs)
  · exact at_of_agree

theorem at_swap (a b : Spec) (f : Field) :
    Difference.at settings b a f = (Difference.at settings a b f).map Prod.swap := by
  have back : Agree settings f b a → Agree settings f a b := (agree_equivalence f).symm
  by_cases same : Agree settings f a b
  · rw [at_of_agree same, at_of_agree ((agree_equivalence f).symm same)]
    rfl
  · rw [at_of_differ same, at_of_differ fun other => same (back other)]
    rfl

end Difference

namespace ChangeSet

theorem putChange_fresh {c : Change} {changes : List Change}
    (fresh : c.field ∉ changes.map Change.field) :
    putChange c changes = changes ++ [c] := by
  induction changes with
  | nil => rfl
  | cons d rest ih =>
    obtain ⟨other, fresh⟩ := not_or.mp (mt List.mem_cons.mpr fresh)
    rw [putChange, if_neg (Ne.symm other), ih fresh, List.cons_append]

theorem addValues_fresh {s : ChangeSet} {f : Field} (fresh : f ∉ s.fields)
    (values : Difference.Values) : (s.addValues f values).changes =
      s.changes ++ (values.map fun v => (⟨f, v.1, v.2⟩ : Change)).toList := by
  cases values with
  | none => simp [addValues]
  | some v => exact putChange_fresh fresh

theorem foldl_addValues {fs : List Field} (distinct : fs.Nodup) (found : Field → Difference.Values)
    (s : ChangeSet) (fresh : ∀ f ∈ fs, f ∉ s.fields) :
    (fs.foldl (fun s f => s.addValues f (found f)) s).changes =
      s.changes ++ fs.filterMap fun f => (found f).map fun v => ⟨f, v.1, v.2⟩ := by
  induction fs generalizing s with
  | nil => simp
  | cons f fs ih =>
    obtain ⟨single, distinct⟩ := List.nodup_cons.mp distinct
    obtain ⟨mine, fresh⟩ := List.forall_mem_cons.mp fresh
    have added := addValues_fresh mine (found f)
    have still : ∀ g ∈ fs, g ∉ (s.addValues f (found f)).fields := by
      intro g later mentioned
      rw [fields, added, List.map_append, List.mem_append] at mentioned
      rcases mentioned with before | now
      · exact fresh g later before
      · cases values : found f with
        | none => simp [values] at now
        | some v =>
          have same : g = f := by simpa [values] using now
          exact single (same ▸ later)
    rw [List.foldl_cons, ih distinct _ still, added, List.filterMap_cons]
    cases found f <;> simp

theorem changes_between (settings : Settings) (a b : Snapshot) :
    (between settings a b).changes = Field.compared.filterMap fun f =>
      (Difference.at settings a.spec b.spec f).map fun v => ⟨f, v.1, v.2⟩ := by
  have tags := addValues_fresh (s := empty) (f := .tags) List.not_mem_nil
    (Difference.tags a.spec b.spec)
  have fresh : ∀ f ∈ Difference.byValue, f ∉ (findTags empty a.spec b.spec).fields := by
    intro f byValue mentioned
    rw [fields, findTags, tags] at mentioned
    cases found : Difference.tags a.spec b.spec with
    | none => simp [found, empty] at mentioned
    | some v =>
      obtain rfl : f = .tags := by simpa [found, empty] using mentioned
      exact absurd byValue (by decide)
  have rest := foldl_addValues (by decide) (Difference.valueAt settings a.spec b.spec) _ fresh
  have first : Difference.at settings a.spec b.spec .tags = Difference.tags a.spec b.spec := rfl
  rw [between, betweenWith, rest, findTags, tags, Field.compared, List.filterMap_cons, first]
  cases Difference.tags a.spec b.spec <;> rfl

theorem fields_between (settings : Settings) (a b : Snapshot) : (between settings a b).fields =
    Field.compared.filter fun f => (Difference.at settings a.spec b.spec f).isSome := by
  rw [fields, changes_between, List.map_filterMap, ← List.filterMap_eq_filter]
  refine List.filterMap_congr fun f _ => ?_
  cases found : Difference.at settings a.spec b.spec f <;> simp [Option.guard, found]

theorem fields_between_swap (settings : Settings) (a b : Snapshot) :
    (between settings b a).fields = (between settings a b).fields := by
  rw [fields_between, fields_between]
  refine List.filter_congr fun f _ => ?_
  rw [Difference.at_swap, Option.isSome_map]

end ChangeSet

/-- Having no difference at a field is an equivalence, whatever is compared there. Compared the other
    way round, the same fields differ in the same order, with old and new values exchanged. -/
theorem comparison_mirrors (settings : Settings) :
    (∀ f, Equivalence fun a b : Snapshot => (ChangeSet.between settings a b).get? f = none) ∧
    ∀ a b : Snapshot,
      (ChangeSet.between settings b a).changes =
          (ChangeSet.between settings a b).changes.map Change.mirrored ∧
        (ChangeSet.between settings a b).fields.Nodup ∧
        (ChangeSet.between settings a b).fields.Sublist Field.compared ∧
        ∀ (name name' : String) (registry registry' : Option String) (status status' : Status),
          ChangeSet.between settings
              ⟨{ a.spec with name := name, registryId := registry }, status⟩
              ⟨{ b.spec with name := name', registryId := registry' }, status'⟩ =
            ChangeSet.between settings a b := by
  constructor
  · intro f
    have none_iff (a b : Snapshot) : (ChangeSet.between settings a b).get? f = none ↔
        Difference.Agree settings f a.spec b.spec := by
      rw [get?_between, Option.map_eq_none_iff, Difference.at_eq_none_iff]
    have same : Equivalence (Difference.Agree settings f) := Difference.agree_equivalence f
    simp only [none_iff]
    exact ⟨fun a => same.refl a.spec, same.symm, same.trans⟩
  · intro a b
    have fields : (ChangeSet.between settings a b).fields.Sublist Field.compared := by
      rw [ChangeSet.fields_between]
      exact List.filter_sublist
    refine ⟨?_, fields.nodup (by decide), fields, fun _ _ _ _ _ _ => rfl⟩
    rw [ChangeSet.changes_between, ChangeSet.changes_between, List.map_filterMap]
    refine List.filterMap_congr fun f _ => ?_
    rw [Difference.at_swap, Option.map_map, Option.map_map]
    rfl

end Registrar
