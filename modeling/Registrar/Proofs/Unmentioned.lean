import Registrar.Proofs.Restoring

/- A field that is left out of an object may as well stand there with the value that it has then. The
   other members are read as before; those behind it stand one place further back, and as their order
   is the same, of several faults the same one comes first. -/
namespace Registrar.Reading

open Json (Document Fault)

def pushedBack (gap place : Nat) : Nat := if place < gap then place else place + 1

theorem pushedBack_before {gap place : Nat} (before : place < gap) : pushedBack gap place = place :=
  if_pos before

theorem pushedBack_behind {gap place : Nat} (behind : gap ≤ place) :
    pushedBack gap place = place + 1 :=
  if_neg (Nat.not_lt.mpr behind)

theorem pushedBack_lt_iff {gap i j : Nat} : pushedBack gap i < pushedBack gap j ↔ i < j := by
  unfold pushedBack
  split <;> split <;> omega

/-- The same reading, or the same fault, pushed back where it stands behind the gap. -/
inductive Placed.PushedBack (gap : Nat) : Placed α → Placed α → Prop where
  | ok (a : α) : PushedBack gap (.ok a) (.ok a)
  | fault (place : Nat) (f : Fault) :
      PushedBack gap (.fault place f) (.fault (pushedBack gap place) f)

namespace Placed.PushedBack
variable {gap : Nat}

theorem toExcept {p q : Placed α} (same : PushedBack gap p q) : p.toExcept = q.toExcept := by
  cases same <;> rfl

theorem ofExcept (place : Nat) (read : Except Fault α) :
    PushedBack gap (.ofExcept place read) (.ofExcept (Reading.pushedBack gap place) read) := by
  cases read with
  | ok a => exact .ok a
  | error f => exact .fault place f

theorem map (f : α → β) {p q : Placed α} (same : PushedBack gap p q) :
    PushedBack gap (f <$> p) (f <$> q) := by
  cases same with
  | ok a => exact .ok (f a)
  | fault place e => exact .fault place e

theorem seq {f g : Placed (α → β)} {p q : Placed α} (first : PushedBack gap f g)
    (second : PushedBack gap p q) : PushedBack gap (f <*> p) (g <*> q) := by
  cases first with
  | ok h =>
    cases second with
    | ok a => exact .ok (h a)
    | fault place e => exact .fault place e
  | fault place e =>
    cases second with
    | ok a => exact .fault place e
    | fault place' e' =>
      change PushedBack gap (Placed.ap _ _) (Placed.ap _ _)
      rw [Placed.ap, Placed.ap]
      by_cases earlier : place' < place
      · rw [if_pos earlier, if_pos (pushedBack_lt_iff.mpr earlier)]
        exact .fault place' e'
      · rw [if_neg earlier, if_neg (mt pushedBack_lt_iff.mp earlier)]
        exact .fault place e

end Placed.PushedBack

namespace Record

theorem memberFrom_pushedBack (name : String) {gap start : Nat} (behind : gap ≤ start)
    (members : List (Option String × Document)) :
    memberFrom name (start + 1) members =
      (memberFrom name start members).map fun m => (pushedBack gap m.1, m.2) := by
  induction members generalizing start with
  | nil => rfl
  | cons entry rest ih =>
    obtain ⟨n, d⟩ := entry
    rw [memberFrom, memberFrom]
    split
    · rw [Option.map_some, pushedBack_behind behind]
    · exact ih (Nat.le_succ_of_le behind)

theorem memberFrom_around {name other : String} (differs : other ≠ name) (d : Document)
    (before after : List (Option String × Document)) (start : Nat) :
    memberFrom other start (before ++ (some name, d) :: after) =
      (memberFrom other start (before ++ after)).map fun m =>
        (pushedBack (start + before.length) m.1, m.2) := by
  induction before generalizing start with
  | nil =>
    rw [List.nil_append, List.nil_append, memberFrom,
      if_neg fun same => differs (Option.some.inj same).symm]
    exact memberFrom_pushedBack other (Nat.le_refl start) after
  | cons entry rest ih =>
    obtain ⟨n, e⟩ := entry
    rw [List.cons_append, List.cons_append, memberFrom, memberFrom]
    split
    · rw [Option.map_some, pushedBack_before]
      simp only [List.length_cons]
      omega
    · rw [ih (start + 1), List.length_cons, Nat.add_right_comm, Nat.add_assoc]

structure Adds (more less : Record) (gap : Nat) (name : String) (d : Document) : Prop where
  title : more.title = less.title
  fields : more.fields = less.fields
  named : more.named = less.named
  within : gap ≤ less.members.length
  length : more.members.length = less.members.length + 1
  absent : less.member? name = none
  present : ∃ place, more.member? name = some (place, d)
  others : ∀ other, other ≠ name →
    more.member? other = (less.member? other).map fun m => (pushedBack gap m.1, m.2)

section
variable {more less : Record} {gap : Nat} {name other : String} {d : Document}
  {read : Document → Except Fault α} {unset : α}

theorem Adds.missing (adds : more.Adds less gap name d) (other : String) :
    Placed.PushedBack gap (less.missing other : Placed α) (more.missing other) := by
  have behind : pushedBack gap (less.members.length + 1 + less.fields.idxOf other) =
      more.members.length + 1 + more.fields.idxOf other := by
    have within := adds.within
    rw [pushedBack_behind (by omega), adds.length, adds.fields]
    omega
  rw [Record.missing, Record.missing, ← behind, adds.fields, adds.named, adds.title]
  exact .fault _ _

theorem Adds.required (adds : more.Adds less gap name d) (differs : other ≠ name) :
    Placed.PushedBack gap (less.required other read) (more.required other read) := by
  rw [Record.required, Record.required, adds.others other differs]
  cases less.member? other with
  | none => exact adds.missing other
  | some m => exact .ofExcept m.1 (read m.2)

theorem Adds.defaulted (adds : more.Adds less gap name d) (differs : other ≠ name) :
    Placed.PushedBack gap (less.defaulted other unset read) (more.defaulted other unset read) := by
  rw [Record.defaulted, Record.defaulted, adds.others other differs]
  cases less.member? other with
  | none => exact .ok unset
  | some m => exact .ofExcept m.1 (read m.2)

theorem Adds.own (adds : more.Adds less gap name d) (silent : read d = .ok unset) :
    Placed.PushedBack gap (less.defaulted name unset read) (more.defaulted name unset read) := by
  obtain ⟨place, present⟩ := adds.present
  rw [Record.defaulted, Record.defaulted, adds.absent, present]
  simp only [silent, Placed.ofExcept]
  exact .ok unset

end

def ofMembers (title : String) (fields : List String) (members : List (String × Json)) : Record :=
  ⟨title, fields, true, members.map fun e => (some e.1, e.2.document)⟩

theorem ofMembers_adds (title : String) (fields : List String) {name : String} {v : Json}
    {before after : List (String × Json)} (fresh : name ∉ (before ++ after).map Prod.fst) :
    (ofMembers title fields (before ++ (name, v) :: after)).Adds
      (ofMembers title fields (before ++ after)) before.length name v.document where
  title := rfl
  fields := rfl
  named := rfl
  within := by simp [ofMembers]
  length := by simp [ofMembers, Nat.add_assoc]
  absent := by
    have read := memberFrom_lookup name (before ++ after) 0
    rwa [Json.lookup_eq_none fresh, Option.map_none, Option.map_eq_none_iff] at read
  present := by
    have first : (before ++ (name, v) :: after).lookup name = some v := by
      refine List.lookup_eq_some_iff.mpr ⟨before, after, rfl, fun entry member => ?_⟩
      exact bne_iff_ne.mpr fun same => fresh (by simp [same, List.mem_map_of_mem member])
    have read := memberFrom_lookup name (before ++ (name, v) :: after) 0
    rw [first, Option.map_some, Option.map_eq_some_iff] at read
    obtain ⟨⟨place, _⟩, read, rfl⟩ := read
    exact ⟨place, read⟩
  others other differs := by
    have around := memberFrom_around differs v.document
      (before.map fun e => (some e.1, e.2.document)) (after.map fun e => (some e.1, e.2.document)) 0
    simpa [ofMembers, member?] using around

/-- Objects that name no member twice are read alike if what is built of them is. -/
theorem read_alike {origin : Origin} {title : String} {fields : List String}
    {build : Record → Placed α} {more less : List (String × Json)} (gap : Nat)
    (distinct : (less.map Prod.fst).Nodup) (distinct' : (more.map Prod.fst).Nodup)
    (alike : Placed.PushedBack gap (build (ofMembers title fields less))
      (build (ofMembers title fields more))) :
    Record.read origin title fields build (Json.object less).document =
      Record.read origin title fields build (Json.object more).document := by
  have built {members : List (String × Json)} (distinct : (members.map Prod.fst).Nodup) :
      Record.read origin title fields build (Json.object members).document =
        (build (ofMembers title fields members)).toExcept := by
    have checked := checkMembers_distinct fields distinct [] (fun _ _ => List.not_mem_nil) 0
    rw [Json.document, Record.read, documentMembers_text, checked, ofMembers]
    cases build _ <;> rfl
  rw [built distinct, built distinct', alike.toExcept]

end Record

end Registrar.Reading
