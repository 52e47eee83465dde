import Registrar.Settings.File

/- The name that a file is written under before it is moved. It ends in two extensions where the name
   that is meant ends in none that hold a point, so the two are never the same; where no such name can
   be made, none is written to. -/
namespace Registrar.FilePath

def place? (p : FilePath) : Option Place :=
  p.fileName?.map fun name => (p.parent.parts.foldl Place.step .root).child name

theorem stem_spec (name : List Char) :
    stem name = name ∨ ∃ rest, name = stem name ++ '.' :: rest ∧ '.' ∉ rest := by
  have split : name.reverse.takeWhile (· ≠ '.') ++ name.reverse.dropWhile (· ≠ '.') = name.reverse :=
    List.takeWhile_append_dropWhile
  cases back : name.reverse.dropWhile (· ≠ '.') with
  | nil =>
    rw [stem, back]
    exact .inl rfl
  | cons c front =>
    have point : c = '.' := by
      have first := List.head?_dropWhile_not (fun c => decide (c ≠ '.')) name.reverse
      rw [back] at first
      simpa using first
    subst point
    by_cases hidden : front = []
    · rw [stem, back]
      exact .inl (if_pos hidden)
    · have cut : stem name = front.reverse := by
        rw [stem, back]
        exact if_neg hidden
      refine .inr ⟨(name.reverse.takeWhile (· ≠ '.')).reverse, ?_, ?_⟩
      · rw [back] at split
        rw [cut]
        simpa using (congrArg List.reverse split).symm
      · intro member
        have kept := List.all_eq_true.mp List.all_takeWhile _ (List.mem_reverse.mp member)
        simp at kept

/-- A name of two extensions is not made by taking another in place of its last. -/
theorem stem_append_ne (name : List Char) :
    stem name ++ ".json.tmp".toList ≠ name := by
  intro same
  rcases stem_spec name with whole | ⟨rest, parted, single⟩
  · rw [whole] at same
    simpa using congrArg List.length same
  · have tails : ".json.tmp".toList = '.' :: rest :=
      List.append_cancel_left (same.trans parted)
    cases tails
    exact absurd (by decide) single

theorem isIdle_eq_false {piece : String} (long : 1 < piece.length) : isIdle piece = false := by
  have filled : piece ≠ "" := by
    rintro rfl
    exact absurd long (by decide)
  have other : piece ≠ "." := by
    rintro rfl
    exact absurd long (by decide)
  simp [isIdle, filled, other]

theorem fileName?_append (pieces : List String) {last : String} (long : 1 < last.length) :
    fileName? ⟨pieces ++ [last]⟩ = if last = ".." then none else some last := by
  simp [fileName?, parts, List.filter_append, isIdle_eq_false long]

theorem name_of_child {a b : Place} {name other : String} (same : a.child name = b.child other) :
    name = other := by
  have names := congrArg (fun p : Place => p.names.getLast?) same
  simpa [Place.child, Place.ofNames] using names

theorem fileName?_spare {p : FilePath} {name : String} (meant : p.fileName? = some name)
    (found : (p.withExtension Settings.spareExtension).fileName? = some other) :
    other.toList = stem name.toList ++ ".json.tmp".toList := by
  rw [withExtension, meant] at found
  dsimp only at found
  split at found
  · rw [fileName?_append _ (by decide)] at found
    cases found
  · have spelled : (String.ofList (stem name.toList) ++ "." ++ Settings.spareExtension).toList =
        stem name.toList ++ ".json.tmp".toList := by
      simp [Settings.spareExtension]
    have long : 1 < (String.ofList (stem name.toList) ++ "." ++ Settings.spareExtension).length := by
      rw [← String.length_toList, spelled, List.length_append]
      exact Nat.lt_of_lt_of_le (by decide) (Nat.le_add_left ..)
    rw [fileName?_append _ long] at found
    split at found
    · cases found
    · cases found
      exact spelled

theorem place?_spare_ne {p : FilePath} {q : Place} (meant : p.place? = some q) :
    (p.withExtension Settings.spareExtension).place? ≠ some q := by
  intro spare
  obtain ⟨name, named, rfl⟩ := Option.map_eq_some_iff.mp meant
  obtain ⟨other, found, same⟩ := Option.map_eq_some_iff.mp spare
  have spelled := fileName?_spare named found
  rw [name_of_child same] at spelled
  exact stem_append_ne name.toList spelled.symm

end Registrar.FilePath
