import Mathlib.Data.List.Nodup
import Registrar.Tag.Delta

/- The three buckets of a tag delta. They part the keys of both lists by what becomes of them, each key
   in one bucket and once, in the order in which its list first names it. -/
namespace Registrar

namespace Tag

theorem valueAt_cons (t : Tag) (rest : List Tag) (key : String) :
    valueAt (t :: rest) key = if t.key = key then some (textOrEmpty t.value) else valueAt rest key := by
  by_cases h : t.key = key <;> simp [valueAt, find?_cons, h]

theorem valueAt_isSome {tags : List Tag} {key : String} :
    (valueAt tags key).isSome ↔ key ∈ keys tags := by
  simp [Option.isSome_iff_ne_none, valueAt_eq_none]

theorem mem_firsts {tags : List Tag} {t : Tag} : t ∈ firsts tags ↔ find? tags t.key = some t := by
  induction tags with
  | nil => simp [firsts, find?_nil]
  | cons u rest ih =>
    rw [firsts, List.mem_cons, List.mem_filter, ih, find?_cons]
    by_cases h : u.key = t.key
    · simp [h, eq_comm]
    · have other : t ≠ u := fun same => h (congrArg key same.symm)
      simp [h, other, Ne.symm h]

theorem keys_firsts {tags : List Tag} {key : String} :
    (∃ t ∈ firsts tags, t.key = key) ↔ key ∈ keys tags := by
  rw [← valueAt_isSome, valueAt, Option.isSome_map, Option.isSome_iff_exists]
  constructor
  · rintro ⟨t, counts, rfl⟩
    exact ⟨t, mem_firsts.mp counts⟩
  · rintro ⟨t, found⟩
    have same := find?_key found
    exact ⟨t, mem_firsts.mpr (same ▸ found), same⟩

theorem keys_firsts_nodup (tags : List Tag) : (keys (firsts tags)).Nodup := by
  induction tags with
  | nil => exact List.nodup_nil
  | cons t rest ih =>
    have kept : (keys ((firsts rest).filter (·.key ≠ t.key))).Sublist (keys (firsts rest)) :=
      List.filter_sublist.map key
    refine List.nodup_cons.mpr ⟨?_, kept.nodup ih⟩
    intro again
    obtain ⟨u, member, same⟩ := List.mem_map.mp again
    simp [same] at member

theorem firsts_of_nodup {tags : List Tag} (distinct : (keys tags).Nodup) : firsts tags = tags := by
  induction tags with
  | nil => rfl
  | cons t rest ih =>
    obtain ⟨fresh, distinct⟩ := List.nodup_cons.mp distinct
    rw [firsts, ih distinct]
    refine congrArg (t :: ·) (List.filter_eq_self.mpr ?_)
    intro u member
    have other : u.key ≠ t.key := fun same => fresh (same ▸ List.mem_map_of_mem member)
    simpa using other

theorem find?_perm {tags tags' : List Tag} (order : tags.Perm tags')
    (distinct : (keys tags).Nodup) : find? tags = find? tags' := by
  induction order with
  | nil => rfl
  | cons t _ ih =>
    funext key
    rw [find?_cons, find?_cons, ih (List.nodup_cons.mp distinct).2]
  | swap t u rest =>
    have other : u.key ≠ t.key := by
      intro same
      exact (List.nodup_cons.mp distinct).1 (by simp [same])
    funext key
    rw [find?_cons, find?_cons, find?_cons, find?_cons]
    split
    · rename_i mine
      rw [if_neg fun same => other (mine.trans same.symm)]
    · rfl
  | trans first _ ih ih' =>
    exact (ih distinct).trans (ih' ((first.map key).nodup_iff.mp distinct))

theorem mem_keys_congr {tags tags' : List Tag} (same : find? tags = find? tags') (key : String) :
    key ∈ keys tags ↔ key ∈ keys tags' := by
  rw [← not_iff_not, ← find?_eq_none, ← find?_eq_none, same]

theorem valueAt_congr {tags tags' : List Tag} (same : find? tags = find? tags') (key : String) :
    valueAt tags key = valueAt tags' key := by
  rw [valueAt, valueAt, same]

def InOrder (tags : List Tag) (ks : List String) : Prop :=
  ks.Pairwise fun k l => (keys tags).idxOf k < (keys tags).idxOf l

theorem inOrder_firsts (tags : List Tag) : InOrder tags (keys (firsts tags)) := by
  induction tags with
  | nil => exact .nil
  | cons t rest ih =>
    have other : ∀ k ∈ keys ((firsts rest).filter (·.key ≠ t.key)), k ≠ t.key := by
      intro k member
      obtain ⟨u, counts, rfl⟩ := List.mem_map.mp member
      simpa using (List.mem_filter.mp counts).2
    have later : ∀ k, k ≠ t.key → (keys (t :: rest)).idxOf k = (keys rest).idxOf k + 1 := by
      intro k other
      exact List.idxOf_cons_ne _ other.symm
    have kept : InOrder rest (keys ((firsts rest).filter (·.key ≠ t.key))) :=
      ih.sublist (List.filter_sublist.map key)
    refine List.pairwise_cons.mpr ⟨?_, ?_⟩
    · intro k member
      rw [later k (other k member), keys, List.map_cons, List.idxOf_cons_self]
      omega
    · refine List.Pairwise.imp_of_mem ?_ kept
      intro k l first second before
      rw [later k (other k first), later l (other l second)]
      omega

end Tag

namespace TagDelta
variable {old new : List Tag}

theorem replacement_key {t u : Tag} (replaced : replacement? new t = some u) : u.key = t.key := by
  rw [replacement?, Option.filter_eq_some_iff] at replaced
  exact Tag.find?_key replaced.1

theorem mem_added {t : Tag} :
    t ∈ (between old new).added ↔ Tag.find? new t.key = some t ∧ t.key ∉ Tag.keys old := by
  rw [between, List.mem_filter, Tag.mem_firsts, decide_eq_true_iff]

theorem mem_updated {t : Tag} : t ∈ (between old new).updated ↔
    Tag.find? new t.key = some t ∧ t.key ∈ Tag.keys old ∧
      Tag.valueAt old t.key ≠ Tag.valueAt new t.key := by
  have replaced {u : Tag} (found : Tag.find? old u.key = some u) (same : u.key = t.key) :
      replacement? new u = some t ↔
        Tag.find? new t.key = some t ∧ Tag.valueAt old t.key ≠ Tag.valueAt new t.key := by
    rw [replacement?, Option.filter_eq_some_iff, same]
    refine and_congr_right fun now => ?_
    rw [Tag.valueAt, Tag.valueAt, ← same, found, same, now]
    simp [sameText]
  rw [between, List.mem_filterMap]
  constructor
  · rintro ⟨u, counts, becomes⟩
    have same := replacement_key becomes
    have found := Tag.mem_firsts.mp counts
    obtain ⟨now, differs⟩ := (replaced found same.symm).mp becomes
    exact ⟨now, Tag.keys_firsts.mp ⟨u, counts, same.symm⟩, differs⟩
  · rintro ⟨now, was, differs⟩
    obtain ⟨u, counts, same⟩ := Tag.keys_firsts.mpr was
    exact ⟨u, counts, (replaced (Tag.mem_firsts.mp counts) same).mpr ⟨now, differs⟩⟩

theorem mem_upserts {t : Tag} : t ∈ (between old new).upserts ↔
    Tag.find? new t.key = some t ∧ Tag.valueAt old t.key ≠ Tag.valueAt new t.key := by
  rw [upserts, List.mem_append, mem_added, mem_updated, ← and_or_left]
  refine and_congr_right fun now => ?_
  have missing (unknown : t.key ∉ Tag.keys old) :
      Tag.valueAt old t.key ≠ Tag.valueAt new t.key := by
    rw [Tag.valueAt_eq_none.mpr unknown, Tag.valueAt, now]
    exact (Option.some_ne_none _).symm
  by_cases was : t.key ∈ Tag.keys old
  · simp [was]
  · simp [was, missing was]

theorem mem_removed {key : String} :
    key ∈ (between old new).removed ↔ key ∈ Tag.keys old ∧ key ∉ Tag.keys new := by
  rw [between, List.mem_map]
  constructor
  · rintro ⟨t, member, rfl⟩
    rw [List.mem_filter] at member
    exact ⟨Tag.keys_firsts.mp ⟨t, member.1, rfl⟩, by simpa using member.2⟩
  · rintro ⟨was, gone⟩
    obtain ⟨t, counts, rfl⟩ := Tag.keys_firsts.mpr was
    exact ⟨t, List.mem_filter.mpr ⟨counts, by simpa using gone⟩, rfl⟩

theorem valueAt_of_not_mem {key : String} (other : key ∉ Tag.keys (between old new).upserts)
    (kept : key ∉ (between old new).removed) : Tag.valueAt old key = Tag.valueAt new key := by
  by_cases differs : Tag.valueAt old key = Tag.valueAt new key
  · exact differs
  cases now : Tag.find? new key with
  | none =>
    have gone : key ∉ Tag.keys new := Tag.find?_eq_none.mp now
    rw [Tag.valueAt_eq_none.mpr gone] at differs
    refine absurd (mem_removed.mpr ⟨?_, gone⟩) kept
    exact Tag.valueAt_isSome.mp (Option.isSome_iff_ne_none.mpr differs)
  | some t =>
    have same := Tag.find?_key now
    subst same
    exact absurd (List.mem_map_of_mem (mem_upserts.mpr ⟨now, differs⟩)) other

theorem isEmpty_iff {d : TagDelta} : d.isEmpty = true ↔ d.removed = [] ∧ d.upserts = [] := by
  simp [isEmpty, upserts, and_comm]

theorem keys_added_sublist :
    (Tag.keys (between old new).added).Sublist (Tag.keys (Tag.firsts new)) :=
  List.filter_sublist.map Tag.key

theorem keys_updated_sublist :
    (Tag.keys (between old new).updated).Sublist (Tag.keys (Tag.firsts old)) := by
  change (Tag.keys ((Tag.firsts old).filterMap (replacement? new))).Sublist _
  induction Tag.firsts old with
  | nil => exact .slnil
  | cons t rest ih =>
    rw [List.filterMap_cons]
    cases replaced : replacement? new t with
    | none => exact ih.cons t.key
    | some u =>
      have same := replacement_key replaced
      simp only [Tag.keys, List.map_cons, same]
      exact ih.cons_cons t.key

theorem removed_sublist : (between old new).removed.Sublist (Tag.keys (Tag.firsts old)) :=
  List.filter_sublist.map Tag.key

theorem keys_added_nodup : (Tag.keys (between old new).added).Nodup :=
  keys_added_sublist.nodup (Tag.keys_firsts_nodup new)

theorem keys_updated_nodup : (Tag.keys (between old new).updated).Nodup :=
  keys_updated_sublist.nodup (Tag.keys_firsts_nodup old)

theorem keys_upserts (d : TagDelta) :
    Tag.keys d.upserts = Tag.keys d.added ++ Tag.keys d.updated :=
  List.map_append

theorem keys_upserts_nodup : (Tag.keys (between old new).upserts).Nodup := by
  rw [keys_upserts, List.nodup_append]
  refine ⟨keys_added_nodup, keys_updated_nodup, ?_⟩
  rintro k isNew _ isOld rfl
  obtain ⟨t, added, rfl⟩ := List.mem_map.mp isNew
  obtain ⟨u, updated, same⟩ := List.mem_map.mp isOld
  have known := (mem_updated.mp updated).2.1
  rw [same] at known
  exact (mem_added.mp added).2 known

theorem removed_nodup : (between old new).removed.Nodup :=
  removed_sublist.nodup (Tag.keys_firsts_nodup old)

end TagDelta

theorem sameTags_iff {a b : List Tag} :
    sameTags a b = true ↔ ∀ key, Tag.valueAt a key = Tag.valueAt b key := by
  rw [sameTags, TagDelta.isEmpty_iff]
  constructor
  · rintro ⟨kept, none⟩ key
    exact TagDelta.valueAt_of_not_mem (by simp [none, Tag.keys]) (by simp [kept])
  · intro same
    constructor
    · refine List.eq_nil_iff_forall_not_mem.mpr fun key gone => ?_
      rw [TagDelta.mem_removed, ← Tag.valueAt_isSome, same, Tag.valueAt_isSome] at gone
      exact gone.2 gone.1
    · refine List.eq_nil_iff_forall_not_mem.mpr fun t member => ?_
      exact (TagDelta.mem_upserts.mp member).2 (same t.key)

namespace TagDelta
variable {old new : List Tag}

/-- A walk over both lists, one after the other, that passes over the keys it has met. -/
structure Walk where
  delta : TagDelta
  met : List String

namespace Walk

def onOld (new : List Tag) (w : Walk) (t : Tag) : Walk :=
  if t.key ∈ w.met then w
  else match Tag.find? new t.key with
    | some u =>
      if sameText t.value u.value then ⟨w.delta, t.key :: w.met⟩
      else ⟨{ w.delta with updated := w.delta.updated ++ [u] }, t.key :: w.met⟩
    | none => ⟨{ w.delta with removed := w.delta.removed ++ [t.key] }, t.key :: w.met⟩

def onNew (w : Walk) (t : Tag) : Walk :=
  if t.key ∈ w.met then w
  else ⟨{ w.delta with added := w.delta.added ++ [t] }, t.key :: w.met⟩

def along (old new : List Tag) : Walk := new.foldl onNew (old.foldl (onOld new) ⟨⟨[], [], []⟩, []⟩)

def unmet (met : List String) (tags : List Tag) : List Tag := (Tag.firsts tags).filter (·.key ∉ met)

theorem unmet_met {met : List String} {t : Tag} (known : t.key ∈ met) (rest : List Tag) :
    unmet met (t :: rest) = unmet met rest := by
  rw [unmet, Tag.firsts, List.filter_cons_of_neg (by simp [known]), List.filter_filter]
  refine List.filter_congr fun u _ => ?_
  by_cases same : u.key = t.key <;> simp [same, known]

theorem unmet_fresh {met : List String} {t : Tag} (fresh : t.key ∉ met) (rest : List Tag) :
    unmet met (t :: rest) = t :: unmet (t.key :: met) rest := by
  rw [unmet, Tag.firsts, List.filter_cons_of_pos (by simp [fresh]), List.filter_filter]
  refine congrArg (t :: ·) (List.filter_congr fun u _ => ?_)
  by_cases same : u.key = t.key <;> simp [same]

theorem onOld_fresh {new : List Tag} {w : Walk} {t : Tag} (fresh : t.key ∉ w.met) :
    w.onOld new t =
      ⟨⟨w.delta.added, w.delta.updated ++ (replacement? new t).toList,
        w.delta.removed ++ if t.key ∉ Tag.keys new then [t.key] else []⟩, t.key :: w.met⟩ := by
  rw [onOld, if_neg fresh, replacement?]
  cases found : Tag.find? new t.key with
  | none => simp [Tag.find?_eq_none.mp found]
  | some u =>
    have known : t.key ∈ Tag.keys new := Tag.valueAt_isSome.mp (by simp [Tag.valueAt, found])
    cases same : sameText t.value u.value <;> simp [Option.filter_some, same, known]

theorem mem_met_onOld {new : List Tag} {w : Walk} {t : Tag} {key : String} :
    key ∈ (w.onOld new t).met ↔ key ∈ w.met ∨ key = t.key := by
  by_cases known : t.key ∈ w.met
  · rw [onOld, if_pos known]
    exact (or_iff_left_of_imp fun same => same ▸ known).symm
  · rw [onOld_fresh known, List.mem_cons]
    exact or_comm

theorem mem_met_old (new old : List Tag) (w : Walk) (key : String) :
    key ∈ (old.foldl (onOld new) w).met ↔ key ∈ w.met ∨ key ∈ Tag.keys old := by
  induction old generalizing w with
  | nil => simp [Tag.keys]
  | cons t rest ih =>
    rw [List.foldl_cons, ih, mem_met_onOld, or_assoc, Tag.keys, Tag.keys, List.map_cons, List.mem_cons]

theorem delta_old (new old : List Tag) (w : Walk) : (old.foldl (onOld new) w).delta =
    ⟨w.delta.added, w.delta.updated ++ (unmet w.met old).filterMap (replacement? new),
      w.delta.removed ++ ((unmet w.met old).filter (·.key ∉ Tag.keys new)).map Tag.key⟩ := by
  induction old generalizing w with
  | nil => simp [unmet, Tag.firsts]
  | cons t rest ih =>
    rw [List.foldl_cons, ih]
    by_cases known : t.key ∈ w.met
    · have passed : w.onOld new t = w := if_pos known
      rw [passed, unmet_met known]
    · rw [onOld_fresh known, unmet_fresh known, List.filterMap_cons, List.filter_cons]
      cases replacement? new t <;> by_cases gone : t.key ∈ Tag.keys new <;> simp [gone]

theorem delta_new (new : List Tag) (w : Walk) : (new.foldl onNew w).delta =
    { w.delta with added := w.delta.added ++ unmet w.met new } := by
  induction new generalizing w with
  | nil => simp [unmet, Tag.firsts]
  | cons t rest ih =>
    rw [List.foldl_cons, ih, onNew]
    by_cases known : t.key ∈ w.met
    · rw [if_pos known, unmet_met known]
    · rw [if_neg known, unmet_fresh known]
      simp

end Walk

/-- The delta is what is collected in a walk over both lists. -/
theorem walk_collects_between (old new : List Tag) : (Walk.along old new).delta = between old new := by
  have later : Walk.unmet (old.foldl (Walk.onOld new) ⟨⟨[], [], []⟩, []⟩).met new =
      (Tag.firsts new).filter (·.key ∉ Tag.keys old) := by
    refine List.filter_congr fun t _ => ?_
    simp [Walk.mem_met_old]
  rw [Walk.along, Walk.delta_new, Walk.delta_old, later]
  simp [between, Walk.unmet]

/-- The delta parts the keys of two lists by what becomes of them. An absent value is the empty one, a
    key's first tag is the one that counts. -/
structure Parts (d : TagDelta) (old new : List Tag) : Prop where
  added : ∀ key, key ∈ Tag.keys d.added ↔ key ∈ Tag.keys new ∧ key ∉ Tag.keys old
  updated : ∀ key, key ∈ Tag.keys d.updated ↔
    key ∈ Tag.keys old ∧ key ∈ Tag.keys new ∧ Tag.valueAt old key ≠ Tag.valueAt new key
  removed : ∀ key, key ∈ d.removed ↔ key ∈ Tag.keys old ∧ key ∉ Tag.keys new
  once : (Tag.keys d.added ++ Tag.keys d.updated ++ d.removed).Nodup
  firstsOfNew : ∀ t ∈ d.added ++ d.updated, Tag.find? new t.key = some t
  addedInOrder : Tag.InOrder new (Tag.keys d.added)
  updatedInOrder : Tag.InOrder old (Tag.keys d.updated)
  removedInOrder : Tag.InOrder old d.removed

structure Rearranges (d e : TagDelta) : Prop where
  added : d.added.Perm e.added
  updated : d.updated.Perm e.updated
  removed : d.removed.Perm e.removed

theorem mem_keys_added {key : String} :
    key ∈ Tag.keys (between old new).added ↔ key ∈ Tag.keys new ∧ key ∉ Tag.keys old := by
  constructor
  · intro member
    obtain ⟨t, added, rfl⟩ := List.mem_map.mp member
    obtain ⟨now, unknown⟩ := mem_added.mp added
    exact ⟨Tag.keys_firsts.mp ⟨t, Tag.mem_firsts.mpr now, rfl⟩, unknown⟩
  · rintro ⟨now, unknown⟩
    obtain ⟨t, counts, rfl⟩ := Tag.keys_firsts.mpr now
    exact List.mem_map_of_mem (mem_added.mpr ⟨Tag.mem_firsts.mp counts, unknown⟩)

theorem mem_keys_updated {key : String} : key ∈ Tag.keys (between old new).updated ↔
    key ∈ Tag.keys old ∧ key ∈ Tag.keys new ∧ Tag.valueAt old key ≠ Tag.valueAt new key := by
  constructor
  · intro member
    obtain ⟨t, updated, rfl⟩ := List.mem_map.mp member
    obtain ⟨now, was, differs⟩ := mem_updated.mp updated
    exact ⟨was, Tag.keys_firsts.mp ⟨t, Tag.mem_firsts.mpr now, rfl⟩, differs⟩
  · rintro ⟨was, now, differs⟩
    obtain ⟨t, counts, rfl⟩ := Tag.keys_firsts.mpr now
    exact List.mem_map_of_mem (mem_updated.mpr ⟨Tag.mem_firsts.mp counts, was, differs⟩)

theorem between_parts (old new : List Tag) : (between old new).Parts old new where
  added _ := mem_keys_added
  updated _ := mem_keys_updated
  removed _ := mem_removed
  once := by
    rw [← keys_upserts]
    refine List.nodup_append.mpr ⟨keys_upserts_nodup, removed_nodup, ?_⟩
    rintro key comes _ goes rfl
    have gone := (mem_removed.mp goes).2
    rw [keys_upserts] at comes
    rcases List.mem_append.mp comes with added | updated
    · exact gone (mem_keys_added.mp added).1
    · exact gone (mem_keys_updated.mp updated).2.1
  firstsOfNew t member := (mem_upserts.mp member).1
  addedInOrder := (Tag.inOrder_firsts new).sublist keys_added_sublist
  updatedInOrder := (Tag.inOrder_firsts old).sublist keys_updated_sublist
  removedInOrder := (Tag.inOrder_firsts old).sublist removed_sublist

theorem rearranges_of_found {old' new' : List Tag} (sameOld : Tag.find? old' = Tag.find? old)
    (sameNew : Tag.find? new' = Tag.find? new) :
    (between old' new').Rearranges (between old new) where
  added := by
    refine (List.perm_ext_iff_of_nodup keys_added_nodup.of_map keys_added_nodup.of_map).mpr ?_
    intro t
    rw [mem_added, mem_added, sameNew, Tag.mem_keys_congr sameOld]
  updated := by
    refine (List.perm_ext_iff_of_nodup keys_updated_nodup.of_map keys_updated_nodup.of_map).mpr ?_
    intro t
    rw [mem_updated, mem_updated, sameNew, Tag.mem_keys_congr sameOld, Tag.valueAt_congr sameOld,
      Tag.valueAt_congr sameNew]
  removed := by
    refine (List.perm_ext_iff_of_nodup removed_nodup removed_nodup).mpr ?_
    intro key
    rw [mem_removed, mem_removed, Tag.mem_keys_congr sameOld, Tag.mem_keys_congr sameNew]

theorem keys_updated_mirrored :
    (Tag.keys (between new old).updated).Perm (Tag.keys (between old new).updated) := by
  refine (List.perm_ext_iff_of_nodup keys_updated_nodup keys_updated_nodup).mpr ?_
  intro key
  rw [mem_keys_updated, mem_keys_updated, ne_comm, and_left_comm]

end TagDelta

open TagDelta (between)

/-- The delta parts the keys of both lists, so that lists without delta stand for one map. The delta
    back exchanges what is added and what is removed. The order in which a list has distinct keys means
    nothing but the order in the buckets. -/
theorem delta_parts_keys (old new : List Tag) :
    (between old new).Parts old new ∧
    (sameTags old new = true ↔ ∀ key, Tag.valueAt old key = Tag.valueAt new key) ∧
    (between new old).removed = Tag.keys (between old new).added ∧
    Tag.keys (between new old).added = (between old new).removed ∧
    (Tag.keys (between new old).updated).Perm (Tag.keys (between old new).updated) ∧
    ((Tag.keys old).Nodup → ∀ old', old.Perm old' →
      (between old' new).Rearranges (between old new)) ∧
    ((Tag.keys new).Nodup → ∀ new', new.Perm new' →
      (between old new').Rearranges (between old new)) := by
  refine ⟨TagDelta.between_parts old new, sameTags_iff, rfl, rfl, TagDelta.keys_updated_mirrored,
    ?_, ?_⟩
  · intro distinct old' order
    exact TagDelta.rearranges_of_found (Tag.find?_perm order distinct).symm rfl
  · intro distinct new' order
    exact TagDelta.rearranges_of_found rfl (Tag.find?_perm order distinct).symm

theorem reversed_lists_rearrange_delta :
    let old : List Tag := [⟨"env", some "dev"⟩, ⟨"owner", none⟩, ⟨"tier", some "1"⟩]
    let new : List Tag := [⟨"owner", some ""⟩, ⟨"cost", some "7"⟩, ⟨"env", some "prod"⟩]
    between old new = ⟨[⟨"cost", some "7"⟩], [⟨"env", some "prod"⟩], ["tier"]⟩ ∧
      (Tag.keys old).Nodup ∧ (Tag.keys new).Nodup ∧
      (between old.reverse new).Rearranges (between old new) ∧
      (between old new.reverse).Rearranges (between old new) := by
  intro old new
  have distinct : (Tag.keys old).Nodup := by decide
  have distinct' : (Tag.keys new).Nodup := by decide
  obtain ⟨_, _, _, _, _, first, second⟩ := delta_parts_keys old new
  exact ⟨by decide, distinct, distinct', first distinct old.reverse old.reverse_perm.symm,
    second distinct' new.reverse new.reverse_perm.symm⟩

end Registrar
