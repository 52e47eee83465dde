import Registrar.Proofs.SettingsFile
import Registrar.Proofs.SpareName

/- All that saving does to a tree of directories. It goes one of three ways: the directories cannot be
   made or the spare file cannot be written, the spare file stays because it cannot be moved, or the
   file is where it was meant to be. What is there afterwards is read off the way, so that there is
   never a file that is not whole. -/
namespace Registrar

/-- The places that a walk steps on, one after the other. -/
def Place.way : Place → List String → List Place
  | _, [] => []
  | p, part :: rest => p.step part :: way (p.step part) rest

namespace FileTree

def ofDirectories (leading : Nat) (places : List Place) : FileTree :=
  ⟨places.map fun p => (p, .directory), leading⟩

def fileAt? : Place × Node → Option (Place × List Char)
  | (_, .directory) => none
  | (p, .file text) => some (p, text)

def files (t : FileTree) : List (Place × List Char) := t.nodes.filterMap fileAt?

theorem files_ofDirectories (leading : Nat) (places : List Place) :
    (ofDirectories leading places).files = [] := by
  simp [files, ofDirectories, List.filterMap_eq_nil_iff, fileAt?]

section
variable {t : FileTree} {p q : Place} {text : List Char}

theorem files_drop (t : FileTree) (p : Place) :
    (t.drop p).files = t.files.filter fun e => decide (e.1 ≠ p) := by
  rw [files, drop, List.filterMap_filter, files, List.filter_filterMap]
  refine List.filterMap_congr fun e _ => ?_
  obtain ⟨place, node⟩ := e
  cases node with
  | directory => simp [fileAt?]
  | file text => by_cases same : place = p <;> simp [fileAt?, same, Option.filter_some]

theorem files_put (t : FileTree) (p : Place) (n : Node) :
    (t.put p n).files = (t.drop p).files ++ (fileAt? (p, n)).toList := by
  rw [files, put, List.filterMap_append]
  cases n <;> rfl

theorem mem_files_of_node (there : t.node? p = some (.file text)) : (p, text) ∈ t.files := by
  rw [node?] at there
  split at there
  · cases there
  · obtain ⟨before, after, nodes, _⟩ := List.lookup_eq_some_iff.mp there
    exact List.mem_filterMap.mpr ⟨(p, .file text), by simp [nodes], rfl⟩

theorem read?_of_no_files (none : t.files = []) (path : FilePath) : t.read? path = .none := by
  cases read : t.read? path with
  | none => rfl
  | some text =>
    simp only [read?, Option.bind_eq_bind, Option.bind_eq_some_iff] at read
    obtain ⟨place, _, there⟩ := read
    split at there
    · rename_i found
      simpa [none] using mem_files_of_node found
    · cases there

theorem isDirectory_put (free : t.node? p = none) :
    (t.put p .directory).isDirectory q = true ↔ t.isDirectory q = true ∨ q = p := by
  have clear : t.isDirectory p = false := by simp [isDirectory, free]
  by_cases same : q = p
  · subst same
    simp [isDirectory, node?_put_self clear]
  · simp [isDirectory, node?_put_of_ne same, same]

theorem files_makeFrom (none : t.files = []) (p : Place) (parts : List String) :
    (t.makeFrom p parts).1.files = [] := by
  induction parts generalizing t p with
  | nil => exact none
  | cons part rest ih =>
    simp only [makeFrom]
    split
    · exact ih none _
    · split
      · exact ih (by simp [files_put, files_drop, none, fileAt?]) _
      · exact none

/-- Directories stay, new ones are on the way, and all of the way is there if nothing fails. -/
theorem isDirectory_makeFrom (t : FileTree) (p : Place) (parts : List String) (q : Place) :
    (t.isDirectory q = true → (t.makeFrom p parts).1.isDirectory q = true) ∧
      ((t.makeFrom p parts).1.isDirectory q = true → t.isDirectory q = true ∨ q ∈ p.way parts) ∧
      ((t.makeFrom p parts).2 = true → q ∈ p.way parts →
        (t.makeFrom p parts).1.isDirectory q = true) := by
  induction parts generalizing t p with
  | nil => simp [makeFrom, Place.way]
  | cons part rest ih =>
    simp only [makeFrom, Place.way, List.mem_cons]
    split
    · rename_i there
      obtain ⟨stays, fresh, whole⟩ := ih t (p.step part)
      refine ⟨stays, fun found => (fresh found).imp_right .inr, fun made member => ?_⟩
      rcases member with rfl | later
      · exact stays there
      · exact whole made later
    · split
      · rename_i room
        have free : t.node? (p.step part) = none := by
          simpa using (Bool.and_eq_true_iff.mp room).1
        obtain ⟨stays, fresh, whole⟩ := ih (t.put (p.step part) .directory) (p.step part)
        refine ⟨fun found => stays ((isDirectory_put free).mpr (.inl found)), fun found => ?_,
          fun made member => ?_⟩
        · rcases fresh found with before | later
          · exact ((isDirectory_put free).mp before).imp_right .inl
          · exact .inr (.inr later)
        · rcases member with rfl | later
          · exact stays ((isDirectory_put free).mpr (.inr rfl))
          · exact whole made later
      · exact ⟨id, .inl, fun made => absurd made Bool.false_ne_true⟩

theorem walk_place {parts : List String} (leads : t.walk p parts = some q) :
    parts.foldl Place.step p = q := by
  induction parts generalizing p with
  | nil => exact Option.some.inj leads
  | cons part rest ih =>
    simp only [walk] at leads
    split at leads
    · exact ih leads
    · cases leads

theorem filePlace?_place {path : FilePath} (leads : t.filePlace? path = some p) :
    path.place? = some p := by
  unfold filePlace? at leads
  split at leads
  · cases leads
  · rename_i name named
    split at leads
    · cases leads
    · split at leads
      · cases leads
      · rename_i dir walked
        split at leads
        · cases leads
        · rw [FilePath.place?, named, Option.map_some, walk_place walked]
          exact leads

end
end FileTree

namespace Settings

variable {t : FileTree} {path : FilePath}

theorem prepared_files (none : t.files = []) : (prepared t path).files = [] := by
  rw [prepared, FileTree.makeDirectories]
  split
  · exact FileTree.files_makeFrom none _ _
  · exact none

theorem isDirectory_prepared (t : FileTree) (path : FilePath) (q : Place) :
    (t.isDirectory q = true → (prepared t path).isDirectory q = true) ∧
      ((prepared t path).isDirectory q = true →
        t.isDirectory q = true ∨ q ∈ Place.root.way path.parent.parts) ∧
      ((t.makeDirectories path.parent).2 = true → q ∈ Place.root.way path.parent.parts →
        (prepared t path).isDirectory q = true) := by
  rw [prepared, FileTree.makeDirectories]
  split
  · exact FileTree.isDirectory_makeFrom t .root path.parent.parts q
  · exact ⟨id, .inl, fun made => absurd made Bool.false_ne_true⟩

section
variable {s : Settings} {u : FileTree} {q : Place}

theorem Saving.isDirectory {r : Except Failure Unit} (saving : Saving s t path u r) (q : Place) :
    (t.isDirectory q = true → u.isDirectory q = true) ∧
      (u.isDirectory q = true → t.isDirectory q = true ∨ q ∈ Place.root.way path.parent.parts) := by
  obtain ⟨stays, fresh, _⟩ := isDirectory_prepared t path q
  cases saving with
  | unwritten f => exact ⟨stays, fresh⟩
  | unmoved f leads astray =>
    rw [(FileTree.put_sameDirectories (FileTree.filePlace?_free leads) s.fileText).isDirectory q]
    exact ⟨stays, fresh⟩
  | saved parent leads aims =>
    rw [(FileTree.moved_sameDirectories leads aims s.fileText).isDirectory q]
    exact ⟨stays, fresh⟩

theorem Saving.isDirectory_way (saving : Saving s t path u (.ok ()))
    (member : q ∈ Place.root.way path.parent.parts) : u.isDirectory q = true := by
  cases saving with
  | saved parent leads aims =>
    rw [(FileTree.moved_sameDirectories leads aims s.fileText).isDirectory q]
    exact (isDirectory_prepared t path q).2.2 parent member

theorem Saving.alone (saving : Saving s t path u (.ok ())) (none : t.files = []) :
    ∃ target, path.place? = some target ∧ u.files = [(target, s.fileText)] := by
  cases saving with
  | @saved source target parent leads aims =>
    refine ⟨target, FileTree.filePlace?_place aims, ?_⟩
    simp [FileTree.files_put, FileTree.files_drop, prepared_files none, FileTree.fileAt?]

theorem Saving.failed {f : Failure} (saving : Saving s t path u (.error f)) (none : t.files = []) :
    u.read? path = .none ∧
      (u.files = [] ∨ ∃ q, (path.withExtension spareExtension).place? = some q ∧
        u.files = [(q, s.fileText)]) := by
  have bare : (prepared t path).files = [] := prepared_files none
  cases saving with
  | unwritten => exact ⟨FileTree.read?_of_no_files bare path, .inl bare⟩
  | @unmoved source _ leads astray =>
    have same := FileTree.put_sameDirectories (FileTree.filePlace?_free leads) s.fileText
    refine ⟨?_, .inr ⟨source, FileTree.filePlace?_place leads, ?_⟩⟩
    · simp [FileTree.read?, FileTree.filePlace?_congr same, astray]
    · simp [FileTree.files_put, FileTree.files_drop, bare, FileTree.fileAt?]

end
end Settings

/-- Where there are no files yet, saving leaves the whole file and nothing else, next to directories
    that were there or lead to it; or it leaves no file where one was meant to be, and none at all but
    the spare file, whose place is always another. -/
theorem saving_is_all_or_nothing (s : Settings) (leading : Nat) (places : List Place)
    (path : FilePath) :
    let t := FileTree.ofDirectories leading places
    let u := (s.save t path).1
    let spare := path.withExtension Settings.spareExtension
    let way := Place.root.way path.parent.parts
    ((s.save t path).2 = .ok () →
      (∃ target, path.place? = some target ∧ u.files = [(target, s.fileText)]) ∧
        u.read? path = some s.fileText ∧
        ∀ q, u.isDirectory q = true ↔ t.isDirectory q = true ∨ q ∈ way) ∧
    (∀ f, (s.save t path).2 = .error f →
      u.read? path = none ∧
        (∀ target text, path.place? = some target → (target, text) ∉ u.files) ∧
        (u.files = [] ∨ ∃ q, spare.place? = some q ∧ u.files = [(q, s.fileText)]) ∧
        ∀ q, (t.isDirectory q = true → u.isDirectory q = true) ∧
          (u.isDirectory q = true → t.isDirectory q = true ∨ q ∈ way)) ∧
    ∀ target, path.place? = some target → spare.place? ≠ some target := by
  intro t u spare way
  have none : t.files = [] := FileTree.files_ofDirectories leading places
  have went := Settings.saving s t path
  have apart : ∀ target, path.place? = some target → spare.place? ≠ some target :=
    fun target => FilePath.place?_spare_ne
  refine ⟨fun saved => ?_, fun f failed => ?_, apart⟩
  · rw [saved] at went
    refine ⟨went.alone none, went.reads, fun q => ⟨(went.isDirectory q).2, fun found => ?_⟩⟩
    exact found.elim (went.isDirectory q).1 went.isDirectory_way
  · rw [failed] at went
    obtain ⟨unread, remains⟩ := went.failed none
    refine ⟨unread, fun target text meant member => ?_, remains, went.isDirectory⟩
    rcases remains with empty | ⟨q, place, alone⟩
    · rw [show u.files = [] from empty] at member
      cases member
    · rw [show u.files = _ from alone] at member
      cases List.mem_singleton.mp member
      exact apart _ meant place

theorem quoted_settings_are_saved_or_not :
    let path := FilePath.ofText "etc/./a/../app.v1"
    let apart := (Settings.quoted.save (.ofDirectories 0 [.ofNames ["etc"]]) path).1
    let taken :=
      (Settings.quoted.save (.ofDirectories 0 [.ofNames ["etc"], .ofNames ["etc", "app.v1"]]) path).1
    apart.read? path = some Settings.quoted.fileText ∧
      (∃ target, path.place? = some target ∧ apart.files = [(target, Settings.quoted.fileText)]) ∧
      apart.isDirectory (.ofNames ["etc", "a"]) = true ∧ taken.read? path = none := by
  intro path apart taken
  have writable : Settings.Writable (.ofDirectories 0 [.ofNames ["etc"]]) path :=
    ⟨by decide, by decide, by decide⟩
  obtain ⟨alone, reads, directories⟩ :=
    (saving_is_all_or_nothing Settings.quoted 0 [.ofNames ["etc"]] path).1
      ((Settings.save_ok_iff _).mpr writable)
  obtain ⟨unread, _⟩ :=
    (saving_is_all_or_nothing Settings.quoted 0 [.ofNames ["etc"], .ofNames ["etc", "app.v1"]]
      path).2.1 (.files "the file cannot be written") (by decide)
  exact ⟨reads, alone, (directories _).mpr (.inr (by decide)), unread⟩

end Registrar
