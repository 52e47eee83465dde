import Mathlib.Data.List.Induction
import Mathlib.Data.List.Nodup
import Registrar.Proofs.Mirror
import Registrar.Proofs.Sequence

/- Changes that are recorded before fields are compared by value. What is found by value is recorded
   after them in the same way, so that the whole set comes of one sequence of records: a field stands
   where it is mentioned first and has what was recorded of it last. -/
namespace Registrar

namespace ChangeSet

def addAll (s : ChangeSet) (cs : List Change) : ChangeSet :=
  cs.foldl (fun s c => s.add c.field c.old c.new) s

def recording (records : Spec → Spec → List Change) : Finder :=
  fun s desired latest => s.addAll (records desired latest)

def foundByValue (found : Field → Difference.Values) : List Change :=
  Difference.byValue.filterMap fun f => (found f).map fun v => ⟨f, v.1, v.2⟩

structure Coherent (s : ChangeSet) : Prop where
  once : s.fields.Nodup
  gets : ∀ f c, s.get? f = some c ↔ c ∈ s.changes ∧ c.field = f
  differs : ∀ f, s.differsAt f = true ↔ f ∈ s.fields
  listed : s.fields = s.changes.map Change.field
  sized : s.size = s.fields.length
  isEmpty_iff : s.isEmpty = true ↔ s.fields = []

/-- What is promised of a set that changes were recorded in before those found by value. -/
structure Joins (records : List Change) (found : Field → Difference.Values) (s : ChangeSet) :
    Prop where
  coherent : s.Coherent
  mentioned : ∀ f, f ∈ s.fields ↔ f ∈ records.map Change.field ∨ (found f).isSome = true
  ordered : s.fields = (records.map Change.field).eraseDups ++
    Difference.byValue.filter fun f => (found f).isSome && f ∉ records.map Change.field
  byValue : ∀ f old new, found f = some (old, new) → s.get? f = some ⟨f, old, new⟩
  recorded : ∀ f, found f = none → s.get? f = (records.filter (·.field = f)).getLast?
  tags : Field.tags ∈ s.fields ↔ Field.tags ∈ records.map Change.field

section
variable {s : ChangeSet}

theorem fields_add (s : ChangeSet) (f : Field) (old new : Json) :
    (s.add f old new).fields = if f ∈ s.fields then s.fields else s.fields ++ [f] := by
  obtain ⟨changes⟩ := s
  simp only [add, fields]
  induction changes with
  | nil => simp [putChange]
  | cons d rest ih =>
    rw [putChange]
    by_cases same : d.field = f
    · simp [same]
    · rw [if_neg same, List.map_cons, ih]
      by_cases later : f ∈ rest.map Change.field
      · simp [later]
      · simp [later, Ne.symm same]

theorem nodup_add (once : s.fields.Nodup) (f : Field) (old new : Json) :
    (s.add f old new).fields.Nodup := by
  rw [fields_add]
  split <;> rename_i mentioned
  · exact once
  · rw [← List.concat_eq_append]
    exact once.concat mentioned

theorem nodup_addAll (once : s.fields.Nodup) (cs : List Change) : (s.addAll cs).fields.Nodup := by
  induction cs generalizing s with
  | nil => exact once
  | cons c cs ih => exact ih (nodup_add once c.field c.old c.new)

theorem addAll_append (s : ChangeSet) (cs ds : List Change) :
    s.addAll (cs ++ ds) = (s.addAll cs).addAll ds := List.foldl_append

theorem eraseDups_append_singleton (fs : List Field) (f : Field) :
    (fs ++ [f]).eraseDups = if f ∈ fs then fs.eraseDups else fs.eraseDups ++ [f] := by
  rw [List.eraseDups_append]
  by_cases before : f ∈ fs
  · simp [before, List.removeAll]
  · simp [before, List.removeAll, List.eraseDups_cons]

theorem eraseDups_of_nodup {fs : List Field} (once : fs.Nodup) : fs.eraseDups = fs := by
  induction fs with
  | nil => rfl
  | cons f fs ih =>
    obtain ⟨single, once⟩ := List.nodup_cons.mp once
    have rest : fs.filter (fun g => !g == f) = fs := by
      refine List.filter_eq_self.mpr fun g member => ?_
      have other : g ≠ f := fun same => single (same ▸ member)
      simp [other]
    rw [List.eraseDups_cons, rest, ih once]

theorem fields_addAll (cs : List Change) :
    (empty.addAll cs).fields = (cs.map Change.field).eraseDups := by
  induction cs using List.reverseRecOn with
  | nil => rfl
  | append_singleton cs c ih =>
    rw [addAll_append, addAll, List.foldl_cons, List.foldl_nil, fields_add, ih, List.map_append,
      List.map_singleton, eraseDups_append_singleton]
    simp only [List.mem_eraseDups]

theorem get?_add (s : ChangeSet) (f g : Field) (old new : Json) :
    (s.add f old new).get? g = if f = g then some ⟨f, old, new⟩ else s.get? g :=
  find_putChange ⟨f, old, new⟩ s.changes g

theorem get?_addAll (cs : List Change) (f : Field) :
    (empty.addAll cs).get? f = (cs.filter (·.field = f)).getLast? := by
  induction cs using List.reverseRecOn with
  | nil => rfl
  | append_singleton cs c ih =>
    rw [addAll_append, addAll, List.foldl_cons, List.foldl_nil, get?_add, ih, List.filter_append]
    by_cases mine : c.field = f
    · subst mine
      simp
    · simp [mine]

theorem get?_eq_some_iff (once : s.fields.Nodup) {f : Field} {c : Change} :
    s.get? f = some c ↔ c ∈ s.changes ∧ c.field = f := by
  constructor
  · intro got
    exact ⟨List.mem_of_find?_eq_some got, by simpa using List.find?_some got⟩
  · rintro ⟨member, mine⟩
    cases got : s.get? f with
    | none =>
      have absent := List.find?_eq_none.mp got c member
      simp [mine] at absent
    | some d =>
      have other : d.field = f := by simpa using List.find?_some got
      have same := List.inj_on_of_nodup_map once (List.mem_of_find?_eq_some got) member
        (other.trans mine.symm)
      rw [same]

theorem coherent_of_nodup (once : s.fields.Nodup) : s.Coherent where
  once := once
  gets _ _ := get?_eq_some_iff once
  differs _ := differsAt_iff_mem
  listed := rfl
  sized := (List.length_map _).symm
  isEmpty_iff := by simp [isEmpty, fields]

end

section
variable (records : List Change) (found : Field → Difference.Values)

theorem foldl_addValues_eq (fs : List Field) (s : ChangeSet) :
    fs.foldl (fun s f => s.addValues f (found f)) s =
      s.addAll (fs.filterMap fun f => (found f).map fun v => ⟨f, v.1, v.2⟩) := by
  induction fs generalizing s with
  | nil => rfl
  | cons f fs ih =>
    rw [List.foldl_cons, ih, List.filterMap_cons]
    cases found f <;> rfl

theorem fields_foundByValue :
    (foundByValue found).map Change.field = Difference.byValue.filter fun f => (found f).isSome := by
  rw [foundByValue, List.map_filterMap, ← List.filterMap_eq_filter]
  refine List.filterMap_congr fun f _ => ?_
  cases values : found f <;> simp [Option.guard, values]

theorem betweenWith_recording (records : Spec → Spec → List Change) (settings : Settings)
    (desired latest : Snapshot) :
    betweenWith (recording records) settings desired latest =
      empty.addAll (records desired.spec latest.spec ++
        foundByValue (Difference.valueAt settings desired.spec latest.spec)) := by
  rw [betweenWith, foldl_addValues_eq, recording, addAll_append]
  rfl

theorem fields_joined : (empty.addAll (records ++ foundByValue found)).fields =
    (records.map Change.field).eraseDups ++
      Difference.byValue.filter fun f => (found f).isSome && f ∉ records.map Change.field := by
  rw [fields_addAll, List.map_append, fields_foundByValue, List.eraseDups_append, List.removeAll,
    List.filter_filter]
  have distinct : Difference.byValue.Nodup := by decide
  rw [eraseDups_of_nodup (distinct.filter _)]
  refine congrArg _ (List.filter_congr fun f _ => ?_)
  rw [Bool.and_comm, List.elem_eq_mem, decide_not]

end

theorem compared_of_found (settings : Settings) (desired latest : Spec) (f : Field)
    (found : (Difference.valueAt settings desired latest f).isSome = true) :
    f ∈ Difference.byValue := by
  cases f with
  | tags => cases found
  | _ => decide

end ChangeSet

/-- Changes that any rule records before fields are compared by value are joined with those found by
    value: each field is mentioned once, where it is recorded first or where its turn comes, with what
    was found by value, or else with what was recorded last. Tags are never compared by value. -/
theorem recorded_changes_join (records : Spec → Spec → List Change) (settings : Settings)
    (desired latest : Snapshot) :
    (ChangeSet.betweenWith (.recording records) settings desired latest).Joins
      (records desired.spec latest.spec)
      (Difference.valueAt settings desired.spec latest.spec) := by
  have joined := ChangeSet.betweenWith_recording records settings desired latest
  have fields := ChangeSet.fields_joined (records desired.spec latest.spec)
    (Difference.valueAt settings desired.spec latest.spec)
  rw [← joined] at fields
  have mentioned (f : Field) :
      f ∈ (ChangeSet.betweenWith (.recording records) settings desired latest).fields ↔
        f ∈ (records desired.spec latest.spec).map Change.field ∨
          (Difference.valueAt settings desired.spec latest.spec f).isSome = true := by
    have compared := ChangeSet.compared_of_found settings desired.spec latest.spec f
    rw [fields, List.mem_append, List.mem_eraseDups, List.mem_filter]
    by_cases recorded : f ∈ (records desired.spec latest.spec).map Change.field
    · exact iff_of_true (.inl recorded) (.inl recorded)
    · simp only [recorded, false_or, not_false_eq_true, decide_true, Bool.and_true]
      exact and_iff_right_of_imp compared
  constructor
  · have start : ChangeSet.empty.fields.Nodup := List.nodup_nil
    rw [joined]
    exact ChangeSet.coherent_of_nodup (ChangeSet.nodup_addAll start _)
  · exact mentioned
  · exact fields
  · intro f old new found
    rw [ChangeSet.get?_betweenWith, found]
    rfl
  · intro f same
    rw [ChangeSet.get?_betweenWith, same]
    exact ChangeSet.get?_addAll _ f
  · exact (mentioned .tags).trans (or_iff_left Bool.false_ne_true)

end Registrar
