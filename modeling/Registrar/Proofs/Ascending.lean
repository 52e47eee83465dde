import Registrar.Proofs.MemberOrder

/- An object that was read has its members in ascending order of their names. Where that is so, a member
   that is put in leaves the others where they are, and one that is there already is not moved. -/
namespace Registrar.Json

def Ascending (members : List (String × Json)) : Prop := members.Pairwise fun a b => a.1 < b.1

section
variable {name : String} {v : Json} {members : List (String × Json)}

theorem Ascending.distinct (ascending : Ascending members) : (members.map Prod.fst).Nodup := by
  refine List.pairwise_map.mpr (ascending.imp fun before same => ?_)
  rw [same] at before
  exact String.lt_irrefl _ before

theorem name_of_mem_putMember {entry : String × Json} (member : entry ∈ putMember name v members) :
    entry.1 = name ∨ entry ∈ members := by
  induction members with
  | nil => exact .inl (congrArg Prod.fst (List.mem_singleton.mp member))
  | cons first rest ih =>
    obtain ⟨k, u⟩ := first
    rw [putMember] at member
    split at member
    · rcases List.mem_cons.mp member with rfl | later
      · exact .inl rfl
      · exact .inr (List.mem_cons_of_mem _ later)
    · split at member
      · rcases List.mem_cons.mp member with rfl | later
        · exact .inl rfl
        · exact .inr later
      · rcases List.mem_cons.mp member with rfl | later
        · exact .inr List.mem_cons_self
        · rcases ih later with own | other
          · exact .inl own
          · exact .inr (List.mem_cons_of_mem _ other)

theorem putMember_ascending (name : String) (v : Json) (ascending : Ascending members) :
    Ascending (putMember name v members) := by
  induction members with
  | nil => exact List.pairwise_singleton _ _
  | cons first rest ih =>
    obtain ⟨k, u⟩ := first
    obtain ⟨least, tail⟩ := List.pairwise_cons.mp ascending
    rw [putMember]
    split
    · rename_i same
      subst same
      exact List.pairwise_cons.mpr ⟨least, tail⟩
    · rename_i other
      split
      · rename_i before
        refine List.pairwise_cons.mpr ⟨fun entry member => ?_, ascending⟩
        rcases List.mem_cons.mp member with rfl | later
        · exact before
        · exact String.lt_trans before (least entry later)
      · rename_i after
        have after : k < name := Std.lt_of_le_of_ne (String.not_lt.mp after) (Ne.symm other)
        refine List.pairwise_cons.mpr ⟨fun entry member => ?_, ih tail⟩
        rcases name_of_mem_putMember member with own | later
        · exact own ▸ after
        · exact least entry later

theorem lookup_putMember_of_ne {other : String} (differs : other ≠ name) (v : Json)
    (members : List (String × Json)) :
    (putMember name v members).lookup other = members.lookup other := by
  have skip (w : Json) (rest : List (String × Json)) :
      ((name, w) :: rest).lookup other = rest.lookup other := by
    rw [List.lookup_cons, beq_false_of_ne differs]
  induction members with
  | nil => exact skip v []
  | cons first rest ih =>
    obtain ⟨k, u⟩ := first
    rw [putMember]
    split
    · rename_i same
      rw [← same, skip, skip]
    · split
      · exact skip v _
      · rw [List.lookup_cons, List.lookup_cons, ih]

theorem putMember_fresh (v : Json) (fresh : name ∉ members.map Prod.fst) :
    ∃ before after, members = before ++ after ∧
      putMember name v members = before ++ (name, v) :: after := by
  induction members with
  | nil => exact ⟨[], [], rfl, rfl⟩
  | cons first rest ih =>
    obtain ⟨k, u⟩ := first
    obtain ⟨other, fresh⟩ : name ≠ k ∧ name ∉ rest.map Prod.fst := by simpa using fresh
    rw [putMember, if_neg other]
    split
    · exact ⟨[], (k, u) :: rest, rfl, rfl⟩
    · obtain ⟨before, after, parts, put⟩ := ih fresh
      exact ⟨(k, u) :: before, after, by rw [parts, List.cons_append], by rw [put, List.cons_append]⟩

theorem putMember_there (ascending : Ascending members) (there : members.lookup name = some v) :
    putMember name v members = members := by
  induction members with
  | nil => cases there
  | cons first rest ih =>
    obtain ⟨k, u⟩ := first
    obtain ⟨least, tail⟩ := List.pairwise_cons.mp ascending
    by_cases same : name = k
    · subst same
      obtain rfl : u = v := by simpa using there
      exact if_pos rfl
    · rw [List.lookup_cons, beq_false_of_ne same] at there
      -- The name stands further back, so that it cannot belong before the first one.
      have later : k < name := by
        obtain ⟨before, after, parts, _⟩ := List.lookup_eq_some_iff.mp there
        exact least (name, v) (by simp [parts])
      rw [putMember, if_neg same, if_neg fun before => String.lt_irrefl _ (String.lt_trans before later),
        ih tail there]

end

theorem jsonMembers?_ascending {depth : Nat} {entries : List (Document × Document)}
    {members : List (String × Json)} (said : Document.jsonMembers? depth entries = some members) :
    Ascending members := by
  induction entries generalizing members with
  | nil =>
    cases said
    exact .nil
  | cons entry rest ih =>
    obtain ⟨name, d⟩ := entry
    simp only [Document.jsonMembers?, Option.bind_eq_bind, Option.bind_eq_some_iff] at said
    obtain ⟨name, _, v, _, others, read, said⟩ := said
    cases said
    split
    · exact ih read
    · exact putMember_ascending name v (ih read)

theorem parse?_ascending {text : List Char} {members : List (String × Json)}
    (said : parse? text = some (.object members)) : Ascending members := by
  rw [parse?] at said
  split at said
  · rename_i d _
    cases d with
    | object entries closed =>
      cases closed with
      | false => cases said
      | true =>
        simp only [Document.greatestDepth, Document.json?, Option.map_eq_some_iff] at said
        obtain ⟨found, read, same⟩ := said
        cases same
        exact jsonMembers?_ascending read
    | number n => cases n <;> cases said
    | string s => cases s <;> cases said
    | array items closed =>
      cases closed with
      | false => cases said
      | true =>
        simp only [Document.greatestDepth, Document.json?, Option.map_eq_some_iff] at said
        obtain ⟨_, _, same⟩ := said
        cases same
    | _ => cases said
  · cases said

end Registrar.Json
