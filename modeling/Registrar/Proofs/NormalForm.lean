import Registrar.Proofs.MemberOrder

/- Values up to the order of members. Putting members in order gives all values that differ in the
   order of members alone one form, and tells apart the others. -/
namespace Registrar.Json

theorem putMember_comm {n m : String} (distinct : n ≠ m) (v u : Json)
    (members : List (String × Json)) :
    putMember n v (putMember m u members) = putMember m u (putMember n v members) := by
  induction members with
  | nil => grind [putMember]
  | cons entry rest ih =>
    obtain ⟨k, w⟩ := entry
    grind [putMember]

theorem orderedMembers_perm {members members' : List (String × Json)}
    (order : members.Perm members') (distinct : (members.map Prod.fst).Nodup) :
    orderedMembers members = orderedMembers members' := by
  induction order with
  | nil => rfl
  | cons entry _ ih =>
    obtain ⟨name, v⟩ := entry
    rw [orderedMembers, orderedMembers, ih (List.nodup_cons.mp distinct).2]
  | swap entry entry' rest =>
    obtain ⟨name, v⟩ := entry
    obtain ⟨name', v'⟩ := entry'
    have other : name' ≠ name := by
      intro same
      exact (List.nodup_cons.mp distinct).1 (by simp [same])
    simp only [orderedMembers]
    exact putMember_comm other v'.ordered v.ordered (orderedMembers rest)
  | trans first _ ih ih' =>
    exact (ih distinct).trans (ih' ((first.map Prod.fst).nodup_iff.mp distinct))

theorem orderedMembers_each {depth : Nat} {members : List (String × Json)}
    (plain : PlainMembers depth members) (distinct : (members.map Prod.fst).Nodup) :
    (orderedMembers members).Perm (members.map fun e => (e.1, e.2.ordered)) := by
  induction members with
  | nil => exact .refl _
  | cons entry rest ih =>
    obtain ⟨name, v⟩ := entry
    obtain ⟨fresh, distinct⟩ := List.nodup_cons.mp distinct
    rw [← (orderedMembers_names plain.2 distinct).mem_iff] at fresh
    exact (putMember_perm v.ordered fresh).trans ((ih plain.2 distinct).cons _)

mutual

theorem ordered_of_reordered {depth : Nat} (v : Json) {w : Json} (plain : Plain depth v)
    (same : Reordered v w) : v.ordered = w.ordered := by
  cases v with
  | null => cases same; rfl
  | bool b => cases same; rfl
  | number n => cases same; rfl
  | string s => cases same; rfl
  | array items =>
    cases depth with
    | zero => cases plain
    | succ depth =>
      cases same with
      | array each => rw [ordered, ordered, orderedItems_of_reordered items plain each]
  | object members =>
    cases depth with
    | zero => cases plain
    | succ depth =>
      cases same with
      | object each order =>
        have distinct := plain.1
        rw [← each.names] at distinct
        rw [ordered, ordered, orderedMembers_of_reordered members plain.2 each,
          orderedMembers_perm order distinct]

theorem orderedItems_of_reordered {depth : Nat} (items : List Json) {items' : List Json}
    (plain : PlainItems depth items) (each : ReorderedItems items items') :
    orderedItems items = orderedItems items' := by
  match items, each with
  | [], .nil => rfl
  | v :: rest, .cons first others =>
    rw [orderedItems, orderedItems, ordered_of_reordered v plain.1 first,
      orderedItems_of_reordered rest plain.2 others]

theorem orderedMembers_of_reordered {depth : Nat} (members : List (String × Json))
    {members' : List (String × Json)} (plain : PlainMembers depth members)
    (each : ReorderedMembers members members') :
    orderedMembers members = orderedMembers members' := by
  match members, each with
  | [], .nil => rfl
  | (name, v) :: rest, .cons first others =>
    rw [orderedMembers, orderedMembers, ordered_of_reordered v plain.1 first,
      orderedMembers_of_reordered rest plain.2 others]

end

mutual

theorem reordered_of_ordered {depth depth' : Nat} (v w : Json) (plain : Plain depth v)
    (plain' : Plain depth' w) (same : v.ordered = w.ordered) : Reordered v w := by
  cases v with
  | null => cases w <;> cases same; exact .null
  | bool b => cases w <;> cases same; exact .bool b
  | number n => cases w <;> cases same; exact .number n
  | string s => cases w <;> cases same; exact .string s
  | array items =>
    cases w with
    | array items' =>
      cases depth with
      | zero => cases plain
      | succ depth =>
        cases depth' with
        | zero => cases plain'
        | succ depth' =>
          rw [ordered, ordered, Json.array.injEq] at same
          exact .array (reorderedItems_of_ordered items items' plain plain' same)
    | _ => cases same
  | object members =>
    cases w with
    | object members' =>
      cases depth with
      | zero => cases plain
      | succ depth =>
        cases depth' with
        | zero => cases plain'
        | succ depth' =>
          rw [ordered, ordered, Json.object.injEq] at same
          have each := orderedMembers_each plain.2 plain.1
          rw [same] at each
          obtain ⟨among, each, order⟩ := reorderedMembers_of_ordered members members' plain.2
            plain'.2 (each.symm.trans (orderedMembers_each plain'.2 plain'.1))
          exact .object each order
    | _ => cases same

theorem reorderedItems_of_ordered {depth depth' : Nat} (items items' : List Json)
    (plain : PlainItems depth items) (plain' : PlainItems depth' items')
    (same : orderedItems items = orderedItems items') : ReorderedItems items items' := by
  match items, items' with
  | [], [] => exact .nil
  | v :: rest, w :: rest' =>
    obtain ⟨first, others⟩ := List.cons.inj same
    exact .cons (reordered_of_ordered v w plain.1 plain'.1 first)
      (reorderedItems_of_ordered rest rest' plain.2 plain'.2 others)

theorem reorderedMembers_of_ordered {depth depth' : Nat}
    (members members' : List (String × Json)) (plain : PlainMembers depth members)
    (plain' : PlainMembers depth' members')
    (same : (members.map fun e => (e.1, e.2.ordered)).Perm
      (members'.map fun e => (e.1, e.2.ordered))) :
    ∃ among, ReorderedMembers members among ∧ among.Perm members' := by
  match members with
  | [] =>
    have none : members' = [] := by simpa using same.symm
    exact ⟨[], .nil, none ▸ .refl _⟩
  | (name, v) :: rest =>
    obtain ⟨⟨name', w⟩, member, pair⟩ := List.mem_map.mp (same.subset List.mem_cons_self)
    obtain ⟨named, alike⟩ := Prod.mk.inj pair
    cases named
    obtain ⟨before, after, rfl⟩ := List.append_of_mem member
    have found : (before ++ (name, w) :: after).Perm ((name, w) :: (before ++ after)) :=
      List.perm_middle
    have others := same.trans (found.map fun e => (e.1, e.2.ordered))
    rw [List.map_cons, List.map_cons, alike] at others
    have left : PlainMembers depth' (before ++ after) :=
      plainMembers_iff.mpr fun e m => plainMembers_iff.mp plain' e (found.mem_iff.mpr (.tail _ m))
    obtain ⟨among, each, order⟩ := reorderedMembers_of_ordered rest (before ++ after) plain.2
      left others.cons_inv
    have first := reordered_of_ordered v w plain.1 (plainMembers_iff.mp plain' _ member) alike.symm
    exact ⟨(name, w) :: among, .cons first each, (order.cons _).trans found.symm⟩

end

/-- Values that repeat no name are the same up to the order of members exactly if they have one form
    when put in order. -/
theorem reordered_iff_ordered {depth depth' : Nat} {v w : Json} (plain : Plain depth v)
    (plain' : Plain depth' w) : Reordered v w ↔ v.ordered = w.ordered :=
  ⟨ordered_of_reordered v plain, reordered_of_ordered v w plain plain'⟩

mutual

theorem Plain.reordered {depth : Nat} (v : Json) {w : Json} (plain : Plain depth v)
    (same : Reordered v w) : Plain depth w := by
  cases v with
  | null => cases same; trivial
  | bool b => cases same; trivial
  | number n => cases same; exact plain
  | string s => cases same; trivial
  | array items =>
    cases depth with
    | zero => cases plain
    | succ depth =>
      cases same with
      | array each => exact PlainItems.reordered items plain each
  | object members =>
    cases depth with
    | zero => cases plain
    | succ depth =>
      cases same with
      | object each order =>
        have names := (each.names_perm order).nodup_iff.mpr plain.1
        have inner := plainMembers_iff.mp (PlainMembers.reordered members plain.2 each)
        exact ⟨names, plainMembers_iff.mpr fun e m => inner e (order.mem_iff.mpr m)⟩

theorem PlainItems.reordered {depth : Nat} (items : List Json) {items' : List Json}
    (plain : PlainItems depth items) (each : ReorderedItems items items') :
    PlainItems depth items' := by
  match items, each with
  | [], .nil => trivial
  | v :: rest, .cons first others =>
    exact ⟨Plain.reordered v plain.1 first, PlainItems.reordered rest plain.2 others⟩

theorem PlainMembers.reordered {depth : Nat} (members : List (String × Json))
    {members' : List (String × Json)} (plain : PlainMembers depth members)
    (each : ReorderedMembers members members') : PlainMembers depth members' := by
  match members, each with
  | [], .nil => trivial
  | (name, v) :: rest, .cons first others =>
    exact ⟨Plain.reordered v plain.1 first, PlainMembers.reordered rest plain.2 others⟩

end

end Registrar.Json
