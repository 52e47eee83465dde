import Mathlib.Data.List.Nodup
import Registrar.Json.Reading
import Registrar.Proofs.MemberOrder

/- Readers that give back what was written. A record is restored where each of its members is, and
   in whatever order they stand: each field is found by its name, and the names are distinct. -/
namespace Registrar

open Json (Document Fault Reordered ReorderedItems ReorderedMembers Plain PlainItems PlainMembers)

namespace Json

mutual

theorem document_isSound (v : Json) : v.document.isSound = true := by
  cases v with
  | array items =>
    rw [document, Document.isSound, documents_sound items]
    rfl
  | object members =>
    rw [document, Document.isSound, documentMembers_sound members]
    rfl
  | _ => rfl

theorem documents_sound (items : List Json) : Document.soundItems (documents items) = true := by
  match items with
  | [] => rfl
  | v :: rest =>
    rw [documents, Document.soundItems, document_isSound v, documents_sound rest]
    rfl

theorem documentMembers_sound (members : List (String × Json)) :
    Document.soundMembers (documentMembers members) = true := by
  match members with
  | [] => rfl
  | (name, v) :: rest =>
    rw [documentMembers, Document.soundMembers, document_isSound v, documentMembers_sound rest]
    rfl

end

def present (members : List (String × Option Json)) : List (String × Json) :=
  members.filterMap fun (name, v) => v.map fun v => (name, v)

theorem mem_present {members : List (String × Option Json)} {name : String} {v : Json} :
    (name, v) ∈ present members ↔ (name, some v) ∈ members := by
  simp [present]

theorem present_names_sublist (members : List (String × Option Json)) :
    ((present members).map Prod.fst).Sublist (members.map Prod.fst) := by
  induction members with
  | nil => exact .slnil
  | cons entry rest ih =>
    obtain ⟨name, v⟩ := entry
    cases v with
    | none => exact ih.cons name
    | some v => exact ih.cons_cons name

theorem plain_natural {depth n : Nat} (small : n < UInt64.size) : Plain depth (.natural n) := by
  have fits : Number.Fits n := by
    rw [Number.Fits, Number.leastInteger]
    omega
  exact fits

theorem plain_record {depth : Nat} {members : List (String × Option Json)}
    (distinct : (members.map Prod.fst).Nodup)
    (each : ∀ entry ∈ members, ∀ v ∈ entry.2, Plain depth v) : Plain (depth + 1) (.record members) := by
  refine ⟨distinct.sublist (present_names_sublist members), plainMembers_iff.mpr ?_⟩
  rintro ⟨name, v⟩ member
  exact each (name, some v) (mem_present.mp member) v rfl

theorem plain_array {depth : Nat} {items : List α} {write : α → Json}
    (each : ∀ a ∈ items, Plain depth (write a)) : Plain (depth + 1) (.array (items.map write)) := by
  refine plainItems_iff.mpr fun v member => ?_
  obtain ⟨a, found, rfl⟩ := List.mem_map.mp member
  exact each a found

theorem ReorderedMembers.mem {members members' : List (String × Json)}
    (each : ReorderedMembers members members') {name : String} {v : Json}
    (member : (name, v) ∈ members) : ∃ w, Reordered v w ∧ (name, w) ∈ members' := by
  induction members generalizing members' with
  | nil => cases member
  | cons entry rest ih =>
    cases each with
    | cons first others =>
      rcases List.mem_cons.mp member with same | member
      · cases same
        exact ⟨_, first, List.mem_cons_self⟩
      · obtain ⟨w, reordered, found⟩ := ih others member
        exact ⟨w, reordered, List.mem_cons_of_mem _ found⟩

section
variable {members : List (String × Option Json)} {same members' : List (String × Json)} {name : String}

theorem lookup_reordered (distinct : (members.map Prod.fst).Nodup)
    (each : ReorderedMembers (present members) same) (order : same.Perm members') {v : Json}
    (member : (name, some v) ∈ members) : ∃ w, Reordered v w ∧ members'.lookup name = some w := by
  have distinct' : (members'.map Prod.fst).Nodup :=
    (each.names_perm order).nodup_iff.mpr (distinct.sublist (present_names_sublist members))
  obtain ⟨w, reordered, found⟩ := each.mem (mem_present.mpr member)
  exact ⟨w, reordered, lookup_of_mem distinct' (order.mem_iff.mp found)⟩

theorem lookup_absent (distinct : (members.map Prod.fst).Nodup)
    (each : ReorderedMembers (present members) same) (order : same.Perm members')
    (member : (name, none) ∈ members) : members'.lookup name = none := by
  apply lookup_eq_none
  rw [(each.names_perm order).mem_iff]
  intro named
  obtain ⟨⟨_, v⟩, found, rfl⟩ := List.mem_map.mp named
  have twice := List.inj_on_of_nodup_map distinct member (mem_present.mp found) rfl
  cases twice

theorem member?_record {v : Option Json} (distinct : (members.map Prod.fst).Nodup)
    (member : (name, v) ∈ members) : (record members).member? name = v := by
  have distinct' := distinct.sublist (present_names_sublist members)
  cases v with
  | some v => exact lookup_of_mem distinct' (mem_present.mpr member)
  | none => exact lookup_absent distinct (.refl _) (.refl _) member

theorem member?_reordered (distinct : (members.map Prod.fst).Nodup) {v w : Json}
    (same : Reordered (.record members) w) (member : (name, some v) ∈ members) :
    ∃ u, Reordered v u ∧ w.member? name = some u := by
  cases same with
  | object each order => exact lookup_reordered distinct each order member

end

end Json

namespace Reading

/-- The reader makes `a` of the value, also where the members of its objects are reordered. -/
def Restores (read : Document → Except Fault α) (v : Json) (a : α) : Prop :=
  ∀ w, Reordered v w → read w.document = .ok a

theorem restores_string (s : String) : Restores string (.string s) s := by
  intro w reordered
  cases reordered
  rfl

theorem restores_boolean (b : Bool) : Restores boolean (.bool b) b := by
  intro w reordered
  cases reordered
  rfl

theorem restores_natural {n bound : Nat} (small : n < bound) (expected : String) :
    Restores (natural bound expected) (.natural n) n := by
  intro w reordered
  cases reordered
  have fits : (0 : Int) ≤ n ∧ (n : Int) < bound := by omega
  exact if_pos fits

theorem restores_nullable {read : Document → Except Fault α} {v : Json} {a : α}
    (solid : v.isNull = false) (restores : Restores read v a) :
    Restores (nullable read) v (some a) := by
  intro w reordered
  have reads := restores w reordered
  cases reordered with
  | null => cases solid
  | _ =>
    simp only [Json.document] at reads ⊢
    simp only [nullable, reads, Except.map]

theorem mapM_documents {read : Document → Except Fault α} {write : α → Json} {values : List α}
    {items : List Json} (each : ∀ a ∈ values, Restores read (write a) a)
    (reordered : ReorderedItems (values.map write) items) :
    (Json.documents items).mapM read = .ok values := by
  induction values generalizing items with
  | nil => cases reordered; rfl
  | cons a rest ih =>
    cases reordered with
    | cons first others =>
      have head := each a List.mem_cons_self _ first
      have tail := ih (fun b member => each b (List.mem_cons_of_mem a member)) others
      rw [Json.documents, List.mapM_cons, head, tail]
      rfl

theorem restores_sequence {read : Document → Except Fault α} {write : α → Json} {values : List α}
    (each : ∀ a ∈ values, Restores read (write a) a) :
    Restores (sequence read) (.array (values.map write)) values := by
  intro w reordered
  cases reordered with
  | array items =>
    rw [Json.document, sequence, mapM_documents each items]
    rfl

namespace Record

structure Shows (r : Record) (members : List (String × Option Json)) : Prop where
  present : ∀ {name v}, (name, some v) ∈ members →
    ∃ i w, Reordered v w ∧ r.member? name = some (i, w.document)
  absent : ∀ {name}, (name, none) ∈ members → r.member? name = none

section
variable {r : Record} {members : List (String × Option Json)} {name : String}
  {read : Document → Except Fault α} {v : Json} {a : α}

theorem Shows.required (shown : r.Shows members) (member : (name, some v) ∈ members)
    (restores : Restores read v a) : r.required name read = .ok a := by
  obtain ⟨i, w, reordered, found⟩ := shown.present member
  rw [Record.required, found]
  simp only [restores w reordered, Placed.ofExcept]

theorem Shows.defaulted (shown : r.Shows members) (member : (name, some v) ∈ members)
    (restores : Restores read v a) (unset : α) : r.defaulted name unset read = .ok a := by
  obtain ⟨i, w, reordered, found⟩ := shown.present member
  rw [Record.defaulted, found]
  simp only [restores w reordered, Placed.ofExcept]

theorem Shows.optional {value : Option α} {write : α → Json} (shown : r.Shows members)
    (member : (name, value.map write) ∈ members) (solid : ∀ a, (write a).isNull = false)
    (restores : ∀ a, value = some a → Restores read (write a) a) :
    r.optional name read = .ok value := by
  cases value with
  | none => rw [Record.optional, Record.defaulted, shown.absent member]
  | some a => exact shown.defaulted member (restores_nullable (solid a) (restores a rfl)) none

end

theorem memberFrom_lookup (name : String) (members : List (String × Json)) (start : Nat) :
    (memberFrom name start (members.map fun e => (some e.1, e.2.document))).map Prod.snd =
      (members.lookup name).map Json.document := by
  induction members generalizing start with
  | nil => rfl
  | cons entry rest ih =>
    obtain ⟨k, v⟩ := entry
    by_cases same : name = k
    · simp [memberFrom, same]
    · rw [List.map_cons, memberFrom, if_neg (by simpa using Ne.symm same), ih, List.lookup_cons,
        beq_false_of_ne same]

theorem checkMembers_distinct {members : List (String × Json)} (fields : List String)
    (distinct : (members.map Prod.fst).Nodup) (seen : List String)
    (unseen : ∀ entry ∈ members, entry.1 ∉ seen) (i : Nat) :
    checkMembers fields i seen (members.map fun e => (some e.1, e.2.document)) true = .ok () := by
  induction members generalizing i seen with
  | nil => rfl
  | cons entry rest ih =>
    obtain ⟨fresh, distinct⟩ := List.nodup_cons.mp distinct
    obtain ⟨first, unseen⟩ := List.forall_mem_cons.mp unseen
    rw [List.map_cons, checkMembers, if_neg first, if_pos (Json.document_isSound entry.2)]
    split
    · refine ih distinct _ (fun e member again => ?_) (i + 1)
      rcases List.mem_cons.mp again with same | again
      · exact fresh (same ▸ List.mem_map_of_mem member)
      · exact unseen e member again
    · exact ih distinct seen unseen (i + 1)

theorem documentMembers_text (members : List (String × Json)) :
    (Json.documentMembers members).map (fun (name, d) => (name.text?, d)) =
      members.map fun e => (some e.1, e.2.document) := by
  induction members with
  | nil => rfl
  | cons entry rest ih => rw [Json.documentMembers, List.map_cons, ih]; rfl

theorem shows_of_reordered (title : String) (fields : List String)
    {members : List (String × Option Json)} {same members' : List (String × Json)}
    (distinct : (members.map Prod.fst).Nodup) (each : ReorderedMembers (Json.present members) same)
    (order : same.Perm members') :
    Shows ⟨title, fields, true, members'.map fun e => (some e.1, e.2.document)⟩ members := by
  constructor
  · intro name v member
    obtain ⟨w, reordered, found⟩ := Json.lookup_reordered distinct each order member
    have read := memberFrom_lookup name members' 0
    rw [found, Option.map_some, Option.map_eq_some_iff] at read
    obtain ⟨⟨i, _⟩, read, rfl⟩ := read
    exact ⟨i, w, reordered, read⟩
  · intro name member
    have read := memberFrom_lookup name members' 0
    rwa [Json.lookup_absent distinct each order member, Option.map_none, Option.map_eq_none_iff] at read

end Record

/-- A record whose fields have distinct names is restored if it is built from what it shows. -/
theorem restores_record {origin : Origin} {title : String} {fields : List String}
    {build : Record → Placed α} {members : List (String × Option Json)} {a : α}
    (named : members.map Prod.fst = fields) (distinct : fields.Nodup)
    (builds : ∀ r : Record, r.Shows members → build r = .ok a) :
    Restores (Record.read origin title fields build) (.record members) a := by
  intro w reordered
  subst named
  cases reordered with
  | @object _ same members' each order =>
    have names : (members'.map Prod.fst).Perm ((Json.present members).map Prod.fst) :=
      ReorderedMembers.names_perm each order
    have inner := Json.present_names_sublist members
    have checked := Record.checkMembers_distinct (members.map Prod.fst)
      (names.nodup_iff.mpr (distinct.sublist inner)) [] (fun _ _ => List.not_mem_nil) 0
    have built := builds _ (Record.shows_of_reordered title (members.map Prod.fst) distinct each order)
    rw [Json.document, Record.read, Record.documentMembers_text, checked, built]
    rfl

theorem Placed.ap_ok {f : Placed (α → β)} {a : Placed α} {b : β} (done : f.ap a = .ok b) :
    ∃ g x, f = .ok g ∧ a = .ok x ∧ g x = b := by
  cases f with
  | fault place e =>
    cases a with
    | fault place' e' =>
      rw [ap] at done
      split at done <;> cases done
    | ok x => cases done
  | ok g =>
    cases a with
    | fault place e => cases done
    | ok x =>
      cases done
      exact ⟨g, x, rfl, rfl, rfl⟩

theorem Placed.seq_all {f : Placed (α → β)} {a : Placed α} {P : β → Prop}
    (all : ∀ g, f = .ok g → ∀ x, P (g x)) : ∀ b, f <*> a = .ok b → P b := by
  intro b done
  obtain ⟨g, x, made, -, rfl⟩ := Placed.ap_ok done
  exact all g made x

theorem Record.built {origin : Origin} {title : String} {fields : List String}
    {build : Record → Placed α} {members : List (String × Json)} {a : α}
    (read : Record.read origin title fields build (Json.object members).document = .ok a) :
    build ⟨title, fields, true, members.map fun e => (some e.1, e.2.document)⟩ = .ok a := by
  rw [Json.document, Record.read, Record.documentMembers_text] at read
  generalize Record.checkMembers fields 0 [] _ true = checked at read
  cases both : Placed.ap (.map (fun _ a => a) checked) (build _) with
  | fault place e =>
    rw [both] at read
    cases read
  | ok x =>
    rw [both] at read
    cases read
    obtain ⟨g, y, free, built, rfl⟩ := Placed.ap_ok both
    rw [built]
    cases checked <;> cases free
    rfl

end Reading
end Registrar
