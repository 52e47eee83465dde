import Registrar.Proofs.TagBuckets
import Registrar.Registry

/- What a tag delta does to stored tags. Lists of tags are compared as the maps they stand for: a
   removal and then a tagging turn the old map into the new one, and the removal alone leaves exactly
   the tagging to be done. -/
namespace Registrar

namespace Tag

theorem firsts_filter (keep : String → Bool) (tags : List Tag) :
    firsts (tags.filter (keep ·.key)) = (firsts tags).filter (keep ·.key) := by
  induction tags with
  | nil => rfl
  | cons t rest ih =>
    cases kept : keep t.key with
    | true => simp [firsts, kept, ih, List.filter_filter, Bool.and_comm]
    | false =>
      rw [List.filter_cons_of_neg (by simp [kept]), firsts, List.filter_cons_of_neg (by simp [kept]),
        ih, List.filter_filter]
      refine List.filter_congr fun u _ => ?_
      by_cases same : u.key = t.key <;> simp [same, kept]

theorem valueAt_put (t : Tag) (tags : List Tag) (key : String) :
    valueAt (put t tags) key =
      if t.key = key then some (textOrEmpty t.value) else valueAt tags key := by
  induction tags with
  | nil => simp [put, valueAt_cons]
  | cons u rest ih =>
    rw [put]
    by_cases h : u.key = t.key
    · rw [if_pos h, valueAt_cons, valueAt_cons, h]
      by_cases mine : t.key = key <;> simp [mine]
    · rw [if_neg h, valueAt_cons, valueAt_cons, ih]
      by_cases mine : t.key = key
      · simp [mine, mine ▸ h]
      · simp [mine]

theorem valueAt_putAll {new : List Tag} (tags ups : List Tag)
    (taken : ∀ t ∈ ups, valueAt new t.key = some (textOrEmpty t.value)) (key : String) :
    valueAt (putAll tags ups) key = if key ∈ keys ups then valueAt new key else valueAt tags key := by
  induction ups generalizing tags with
  | nil => simp [putAll, keys]
  | cons t ups ih =>
    have later := ih (put t tags) fun u member => taken u (by simp [member])
    rw [putAll, List.foldl_cons, ← putAll, later, valueAt_put]
    by_cases mine : t.key = key
    · subst mine
      simp [keys, taken t (by simp)]
    · simp [keys, mine, Ne.symm mine]

theorem valueAt_dropKeys (tags : List Tag) (gone : List String) (key : String) :
    valueAt (dropKeys tags gone) key = if key ∈ gone then none else valueAt tags key := by
  induction tags with
  | nil => simp [dropKeys, valueAt, find?_nil]
  | cons t rest ih =>
    rw [dropKeys, List.filter_cons, ← dropKeys]
    by_cases h : t.key ∈ gone
    · simp only [h, not_true_eq_false, decide_false, Bool.false_eq_true, if_false, ih, valueAt_cons]
      by_cases mine : t.key = key
      · simp [← mine, h]
      · simp [mine]
    · simp only [h, not_false_eq_true, decide_true, if_true, valueAt_cons, ih]
      by_cases mine : t.key = key
      · simp [← mine, h]
      · simp [mine]

def meaning (t : Tag) : String × String := (t.key, textOrEmpty t.value)

theorem keys_of_meaning {tags tags' : List Tag} (same : tags.map meaning = tags'.map meaning) :
    keys tags = keys tags' := by
  have first := congrArg (List.map Prod.fst) same
  rwa [List.map_map, List.map_map] at first

theorem mem_keys_dropKeys {tags : List Tag} {gone : List String} {key : String} :
    key ∈ keys (dropKeys tags gone) ↔ key ∈ keys tags ∧ key ∉ gone := by
  rw [← valueAt_isSome, valueAt_dropKeys, ← valueAt_isSome]
  by_cases h : key ∈ gone <;> simp [h]

end Tag

namespace TagDelta
variable {old new : List Tag}

theorem valueAt_upserts {sent : List Tag}
    (same : sent.map Tag.meaning = (between old new).upserts.map Tag.meaning)
    (kept : (between old new).removed = []) (key : String) :
    Tag.valueAt (Tag.putAll old sent) key = Tag.valueAt new key := by
  have taken : ∀ t ∈ sent, Tag.valueAt new t.key = some (textOrEmpty t.value) := by
    intro t member
    have meant : t.meaning ∈ sent.map Tag.meaning := List.mem_map_of_mem member
    rw [same] at meant
    obtain ⟨u, wanted, alike⟩ := List.mem_map.mp meant
    obtain ⟨key, value⟩ := Prod.mk.inj alike
    rw [← key, ← value, Tag.valueAt, (mem_upserts.mp wanted).1, Option.map_some]
  rw [Tag.valueAt_putAll _ _ taken, Tag.keys_of_meaning same]
  split
  · rfl
  · rename_i other
    exact valueAt_of_not_mem other (by simp [kept])

/-- Untagging what is to go leaves exactly the tagging to be done. -/
theorem between_untagged : between (Tag.dropKeys old (between old new).removed) new =
    { between old new with removed := [] } := by
  have kept (key : String) (wanted : key ∈ Tag.keys new) :
      key ∈ Tag.keys (Tag.dropKeys old (between old new).removed) ↔ key ∈ Tag.keys old := by
    rw [Tag.mem_keys_dropKeys, mem_removed]
    simp [wanted]
  rw [TagDelta.mk.injEq]
  refine ⟨?_, ?_, ?_⟩
  · refine List.filter_congr fun t counts => ?_
    exact decide_eq_decide.mpr (not_congr (kept t.key (Tag.keys_firsts.mp ⟨t, counts, rfl⟩)))
  · change (Tag.firsts (Tag.dropKeys old _)).filterMap (replacement? new) = _
    rw [Tag.dropKeys, Tag.firsts_filter (· ∉ (between old new).removed), List.filterMap_filter]
    refine List.filterMap_congr fun t counts => ?_
    split
    · rfl
    · rename_i gone
      have gone : t.key ∈ (between old new).removed := by simpa using gone
      rw [replacement?, Tag.find?_eq_none.mpr (mem_removed.mp gone).2, Option.filter_none]
  · refine List.eq_nil_iff_forall_not_mem.mpr fun key member => ?_
    rw [mem_removed, Tag.mem_keys_dropKeys] at member
    exact member.1.2 (mem_removed.mpr ⟨member.1.1, member.2⟩)

theorem valueAt_synchronised {sent : List Tag}
    (same : sent.map Tag.meaning = (between old new).upserts.map Tag.meaning) (key : String) :
    Tag.valueAt (Tag.putAll (Tag.dropKeys old (between old new).removed) sent) key =
      Tag.valueAt new key := by
  have rest := @between_untagged old new
  have still : (between (Tag.dropKeys old (between old new).removed) new).upserts =
      (between old new).upserts := by
    rw [rest]
    rfl
  apply valueAt_upserts
  · rw [still, same]
  · rw [rest]

end TagDelta

end Registrar
