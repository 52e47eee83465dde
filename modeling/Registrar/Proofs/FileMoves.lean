import Registrar.FileTree

/- Files come and go without changing which directories there are, so paths lead where they led
   before. A file that is written under one name and moved to another is read there. -/
namespace Registrar.FileTree

theorem lookup_filter_ne (nodes : List (Place × Node)) (p q : Place) :
    (nodes.filter fun e => decide (e.1 ≠ p)).lookup q = if q = p then none else nodes.lookup q := by
  induction nodes with
  | nil => simp
  | cons entry rest ih =>
    obtain ⟨place, node⟩ := entry
    by_cases kept : place = p
    · subst kept
      rw [List.filter_cons_of_neg (by simp), ih]
      by_cases same : q = place
      · simp [same]
      · rw [if_neg same, if_neg same, List.lookup_cons, beq_false_of_ne same]
    · rw [List.filter_cons_of_pos (by simpa using kept), List.lookup_cons, ih, List.lookup_cons]
      by_cases same : q = place
      · simp [same, kept]
      · rw [beq_false_of_ne same]

section
variable {t : FileTree} {p q : Place}

theorem node?_put_of_ne (other : q ≠ p) (n : Node) : (t.put p n).node? q = t.node? q := by
  unfold node? put
  split
  · rfl
  · rw [List.lookup_append, lookup_filter_ne, if_neg other, List.lookup_cons, beq_false_of_ne other]
    simp

theorem node?_drop_of_ne (other : q ≠ p) : (t.drop p).node? q = t.node? q := by
  unfold node? drop
  split
  · rfl
  · rw [lookup_filter_ne, if_neg other]

theorem not_above (free : t.isDirectory p = false) : ¬ p.isAbove = true := by
  intro above
  simp [isDirectory, node?, above] at free

theorem node?_put_self (free : t.isDirectory p = false) (n : Node) :
    (t.put p n).node? p = some n := by
  rw [node?, if_neg (not_above free), put, List.lookup_append, lookup_filter_ne, if_pos rfl]
  simp

theorem node?_drop_self (free : t.isDirectory p = false) : (t.drop p).node? p = none := by
  rw [node?, if_neg (not_above free), drop, lookup_filter_ne, if_pos rfl]

end

structure SameDirectories (t u : FileTree) : Prop where
  leading : t.leading = u.leading
  isDirectory : ∀ q, t.isDirectory q = u.isDirectory q

section
variable {t u v : FileTree} {p : Place}

theorem SameDirectories.trans (first : SameDirectories t u) (second : SameDirectories u v) :
    SameDirectories t v :=
  ⟨first.leading.trans second.leading, fun q => (first.isDirectory q).trans (second.isDirectory q)⟩

theorem sameDirectories_of (leading : u.leading = t.leading) (free : t.isDirectory p = false)
    (still : u.isDirectory p = false) (others : ∀ q, q ≠ p → u.node? q = t.node? q) :
    SameDirectories u t := by
  refine ⟨leading, fun q => ?_⟩
  by_cases same : q = p
  · rw [same, free, still]
  · rw [isDirectory, others q same]
    rfl

theorem put_sameDirectories (free : t.isDirectory p = false) (text : List Char) :
    SameDirectories (t.put p (.file text)) t := by
  refine sameDirectories_of rfl free ?_ fun q other => node?_put_of_ne other _
  rw [isDirectory, node?_put_self free]
  rfl

theorem drop_sameDirectories (free : t.isDirectory p = false) : SameDirectories (t.drop p) t := by
  refine sameDirectories_of rfl free ?_ fun q other => node?_drop_of_ne other
  rw [isDirectory, node?_drop_self free]
  rfl

theorem walk_congr (same : SameDirectories t u) (p : Place) (parts : List String) :
    t.walk p parts = u.walk p parts := by
  induction parts generalizing p with
  | nil => rfl
  | cons part rest ih => simp only [walk, same.isDirectory (p.step part), ih]

theorem filePlace?_congr (same : SameDirectories t u) (path : FilePath) :
    t.filePlace? path = u.filePlace? path := by
  unfold filePlace?
  rw [walk_congr same, same.leading]
  simp only [same.isDirectory (Place.child _ _)]

theorem filePlace?_free {path : FilePath} (found : t.filePlace? path = some p) :
    t.isDirectory p = false := by
  unfold filePlace? at found
  split at found
  · cases found
  · split at found
    · cases found
    · split at found
      · cases found
      · split at found
        · cases found
        · cases found
          simp_all

end

section
variable {t : FileTree} {old new : FilePath} {source target : Place}

theorem dropped_sameDirectories (leads : t.filePlace? old = some source) (text : List Char) :
    SameDirectories ((t.put source (.file text)).drop source) t := by
  have kept := put_sameDirectories (filePlace?_free leads) text
  exact (drop_sameDirectories ((kept.isDirectory source).trans (filePlace?_free leads))).trans kept

theorem moved_sameDirectories (leads : t.filePlace? old = some source)
    (aims : t.filePlace? new = some target) (text : List Char) :
    SameDirectories (((t.put source (.file text)).drop source).put target (.file text)) t := by
  have left := dropped_sameDirectories leads text
  exact (put_sameDirectories ((left.isDirectory target).trans (filePlace?_free aims)) text).trans left

theorem rename?_written (leads : t.filePlace? old = some source)
    (aims : t.filePlace? new = some target) (text : List Char) :
    (t.put source (.file text)).rename? old new =
      some (((t.put source (.file text)).drop source).put target (.file text)) := by
  have free := filePlace?_free leads
  simp only [rename?, filePlace?_congr (put_sameDirectories free text), leads, aims,
    node?_put_self free, Option.bind_eq_bind, Option.bind_some]

theorem rename?_astray (leads : t.filePlace? old = some source) (astray : t.filePlace? new = none)
    (text : List Char) : (t.put source (.file text)).rename? old new = none := by
  simp only [rename?, filePlace?_congr (put_sameDirectories (filePlace?_free leads) text), leads,
    astray, Option.bind_eq_bind, Option.bind_some, Option.bind_none]

theorem read?_moved (leads : t.filePlace? old = some source) (aims : t.filePlace? new = some target)
    (text : List Char) :
    (((t.put source (.file text)).drop source).put target (.file text)).read? new = some text := by
  have cleared :=
    ((dropped_sameDirectories leads text).isDirectory target).trans (filePlace?_free aims)
  simp only [read?, filePlace?_congr (moved_sameDirectories leads aims text), aims,
    node?_put_self cleared, Option.bind_eq_bind, Option.bind_some]

end

end Registrar.FileTree
