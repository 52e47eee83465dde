import Registrar.Proofs.Printing

/- The value that a text says has the members of its objects in the order of their names. That is
   all that reading changes of a plain value. -/
namespace Registrar.Json

mutual

def ordered : Json → Json
  | .null => .null
  | .bool b => .bool b
  | .number n => .number n
  | .string s => .string s
  | .array items => .array (orderedItems items)
  | .object members => .object (orderedMembers members)

def orderedItems : List Json → List Json
  | [] => []
  | v :: rest => ordered v :: orderedItems rest

def orderedMembers : List (String × Json) → List (String × Json)
  | [] => []
  | (name, v) :: rest => putMember name (ordered v) (orderedMembers rest)

end

mutual

/-- The same value up to the order of the members of its objects. -/
inductive Reordered : Json → Json → Prop where
  | null : Reordered .null .null
  | bool (b : Bool) : Reordered (.bool b) (.bool b)
  | number (n : Number) : Reordered (.number n) (.number n)
  | string (s : String) : Reordered (.string s) (.string s)
  | array {items items' : List Json} (each : ReorderedItems items items') :
      Reordered (.array items) (.array items')
  | object {members same members' : List (String × Json)} (each : ReorderedMembers members same)
      (order : same.Perm members') : Reordered (.object members) (.object members')

inductive ReorderedItems : List Json → List Json → Prop where
  | nil : ReorderedItems [] []
  | cons {v w : Json} {rest rest' : List Json} (first : Reordered v w)
      (others : ReorderedItems rest rest') : ReorderedItems (v :: rest) (w :: rest')

inductive ReorderedMembers : List (String × Json) → List (String × Json) → Prop where
  | nil : ReorderedMembers [] []
  | cons {name : String} {v w : Json} {rest rest' : List (String × Json)} (first : Reordered v w)
      (others : ReorderedMembers rest rest') :
      ReorderedMembers ((name, v) :: rest) ((name, w) :: rest')

end

mutual

theorem Reordered.refl (v : Json) : Reordered v v := by
  cases v with
  | null => exact .null
  | bool b => exact .bool b
  | number n => exact .number n
  | string s => exact .string s
  | array items => exact .array (ReorderedItems.refl items)
  | object members => exact .object (ReorderedMembers.refl members) (.refl members)

theorem ReorderedItems.refl (items : List Json) : ReorderedItems items items := by
  match items with
  | [] => exact .nil
  | v :: rest => exact .cons (Reordered.refl v) (ReorderedItems.refl rest)

theorem ReorderedMembers.refl (members : List (String × Json)) :
    ReorderedMembers members members := by
  match members with
  | [] => exact .nil
  | (name, v) :: rest => exact .cons (Reordered.refl v) (ReorderedMembers.refl rest)

end

theorem ReorderedMembers.names {members members' : List (String × Json)}
    (each : ReorderedMembers members members') : members'.map Prod.fst = members.map Prod.fst := by
  induction members generalizing members' with
  | nil => cases each; rfl
  | cons entry rest ih =>
    cases each with
    | cons first others => rw [List.map_cons, List.map_cons, ih others]

theorem ReorderedMembers.names_perm {members same members' : List (String × Json)}
    (each : ReorderedMembers members same) (order : same.Perm members') :
    (members'.map Prod.fst).Perm (members.map Prod.fst) := by
  rw [← each.names]
  exact order.symm.map Prod.fst

theorem putMember_perm {name : String} {members : List (String × Json)} (v : Json)
    (fresh : name ∉ members.map Prod.fst) :
    (putMember name v members).Perm ((name, v) :: members) := by
  induction members with
  | nil => exact .refl _
  | cons entry rest ih =>
    obtain ⟨k, u⟩ := entry
    obtain ⟨other, fresh⟩ : name ≠ k ∧ name ∉ rest.map Prod.fst := by simpa using fresh
    rw [putMember, if_neg other]
    split
    · exact .refl _
    · exact ((ih fresh).cons (k, u)).trans (.swap (name, v) (k, u) rest)

theorem lookup_putMember (name : String) (v : Json) (members : List (String × Json)) :
    (putMember name v members).lookup name = some v := by
  induction members with
  | nil => simp [putMember]
  | cons entry rest ih =>
    obtain ⟨k, u⟩ := entry
    rw [putMember]
    split
    · simp
    · split
      · simp
      · rename_i other _
        rw [List.lookup_cons, beq_false_of_ne other]
        exact ih

mutual

theorem reordered_ordered {depth : Nat} (v : Json) (plain : Plain depth v) :
    Reordered v v.ordered := by
  cases v with
  | null => exact .null
  | bool b => exact .bool b
  | number n => exact .number n
  | string s => exact .string s
  | array items =>
    cases depth with
    | zero => cases plain
    | succ depth => exact .array (reordered_orderedItems items plain)
  | object members =>
    cases depth with
    | zero => cases plain
    | succ depth =>
      obtain ⟨same, each, order⟩ := reordered_orderedMembers members plain.2 plain.1
      exact .object each order

theorem reordered_orderedItems {depth : Nat} (items : List Json) (plain : PlainItems depth items) :
    ReorderedItems items (orderedItems items) := by
  match items with
  | [] => exact .nil
  | v :: rest => exact .cons (reordered_ordered v plain.1) (reordered_orderedItems rest plain.2)

theorem reordered_orderedMembers {depth : Nat} (members : List (String × Json))
    (plain : PlainMembers depth members) (distinct : (members.map Prod.fst).Nodup) :
    ∃ same, ReorderedMembers members same ∧ same.Perm (orderedMembers members) := by
  match members with
  | [] => exact ⟨[], .nil, .refl _⟩
  | (name, v) :: rest =>
    obtain ⟨fresh, distinct⟩ := List.nodup_cons.mp distinct
    obtain ⟨same, each, order⟩ := reordered_orderedMembers rest plain.2 distinct
    rw [← each.names, (order.map Prod.fst).mem_iff] at fresh
    exact ⟨(name, v.ordered) :: same, .cons (reordered_ordered v plain.1) each,
      (order.cons _).trans (putMember_perm v.ordered fresh).symm⟩

end

theorem orderedMembers_names {depth : Nat} {members : List (String × Json)}
    (plain : PlainMembers depth members) (distinct : (members.map Prod.fst).Nodup) :
    ((orderedMembers members).map Prod.fst).Perm (members.map Prod.fst) := by
  obtain ⟨same, each, order⟩ := reordered_orderedMembers members plain distinct
  exact each.names_perm order

theorem lookup_of_mem {name : String} {v : Json} {members : List (String × Json)}
    (distinct : (members.map Prod.fst).Nodup) (member : (name, v) ∈ members) :
    members.lookup name = some v := by
  induction members with
  | nil => cases member
  | cons entry rest ih =>
    obtain ⟨fresh, distinct⟩ := List.nodup_cons.mp distinct
    rcases List.mem_cons.mp member with same | member
    · subst same
      simp
    · have other : name ≠ entry.1 := fun same => fresh (same ▸ List.mem_map_of_mem member)
      rw [List.lookup_cons, beq_false_of_ne other]
      exact ih distinct member

theorem lookup_eq_none {name : String} {members : List (String × Json)}
    (fresh : name ∉ members.map Prod.fst) : members.lookup name = none := by
  rw [List.lookup_eq_none_iff]
  rintro ⟨k, v⟩ member
  have other : name ≠ k := fun same => fresh (same ▸ List.mem_map_of_mem member)
  exact bne_iff_ne.mpr other

mutual

theorem json?_document {depth : Nat} (v : Json) (plain : Plain depth v) :
    v.document.json? depth = some v.ordered := by
  cases v with
  | null => rfl
  | bool b => rfl
  | number n => rfl
  | string s => rfl
  | array items =>
    cases depth with
    | zero => cases plain
    | succ depth =>
      have inner := jsonItems?_documents items plain
      simp [document, Document.json?, inner, ordered]
  | object members =>
    cases depth with
    | zero => cases plain
    | succ depth =>
      have inner := jsonMembers?_documentMembers members plain.2 plain.1
      simp [document, Document.json?, inner, ordered]

theorem jsonItems?_documents {depth : Nat} (items : List Json) (plain : PlainItems depth items) :
    Document.jsonItems? depth (documents items) = some (orderedItems items) := by
  match items with
  | [] => rfl
  | v :: rest =>
    have first := json?_document v plain.1
    have others := jsonItems?_documents rest plain.2
    simp [documents, Document.jsonItems?, first, others, orderedItems]

theorem jsonMembers?_documentMembers {depth : Nat} (members : List (String × Json))
    (plain : PlainMembers depth members) (distinct : (members.map Prod.fst).Nodup) :
    Document.jsonMembers? depth (documentMembers members) = some (orderedMembers members) := by
  match members with
  | [] => rfl
  | (name, v) :: rest =>
    obtain ⟨fresh, distinct⟩ := List.nodup_cons.mp distinct
    have first := json?_document v plain.1
    have others := jsonMembers?_documentMembers rest plain.2 distinct
    rw [← (orderedMembers_names plain.2 distinct).mem_iff] at fresh
    have absent := lookup_eq_none fresh
    simp [documentMembers, Document.jsonMembers?, Document.text?, first, others, absent,
      orderedMembers]

end

/-- Every text of a plain value is read as that value, its members in order. -/
theorem parse?_rendered {v : Json} {w t w' : List Char} (plain : Plain Document.greatestDepth v)
    (before : Space w) (written : Renders v t) (after : Space w') :
    parse? (w ++ (t ++ w')) = some v.ordered := by
  rw [parse?, ofText_rendered before written after]
  exact json?_document v plain

theorem parse?_unspaced {v : Json} {t : List Char} (plain : Plain Document.greatestDepth v)
    (written : Renders v t) : parse? t = some v.ordered := by
  have read := parse?_rendered plain space_nil written space_nil
  rwa [List.nil_append, List.append_nil] at read

end Registrar.Json
