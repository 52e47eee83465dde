import Registrar.Policy

/- Policies that are the same are so in the sense of an equivalence. Two notions are mixed: the same
   text, absent and empty alike, and the same JSON value. What keeps the mixture transitive is that the
   empty text says no value. -/
namespace Registrar

namespace Number

theorem same_refl (n : Number) : n.same n = true := by
  cases n with
  | integer z => simp [same]
  | float x => exact x.same_refl

theorem same_symm {m n : Number} (h : m.same n = true) : n.same m = true := by
  cases m <;> cases n <;> simp only [same, beq_iff_eq, Bool.false_eq_true] at *
  · exact h.symm
  · exact Binary64.same_symm h

theorem same_trans {l m n : Number} (h : l.same m = true) (k : m.same n = true) :
    l.same n = true := by
  cases l <;> cases m <;> cases n <;> simp only [same, beq_iff_eq, Bool.false_eq_true] at *
  · exact h.trans k
  · exact Binary64.same_trans h k

end Number

namespace Json

mutual

theorem same_refl (v : Json) : v.same v = true := by
  cases v with
  | null => rfl
  | bool b => simp [same]
  | number n => exact n.same_refl
  | string s => simp [same]
  | array items => exact sameItems_refl items
  | object members => exact sameMembers_refl members

theorem sameItems_refl (items : List Json) : sameItems items items = true := by
  cases items with
  | nil => rfl
  | cons v rest => simp [sameItems, same_refl v, sameItems_refl rest]

theorem sameMembers_refl (members : List (String × Json)) : sameMembers members members = true := by
  match members with
  | [] => rfl
  | (name, v) :: rest => simp [sameMembers, same_refl v, sameMembers_refl rest]

end

mutual

theorem same_symm (v w : Json) (h : v.same w = true) : w.same v = true := by
  cases v with
  | null => cases w <;> simp_all [same]
  | bool b => cases w <;> simp_all [same]
  | number n => cases w <;> simp_all [same, Number.same_symm]
  | string s => cases w <;> simp_all [same]
  | array items =>
    cases w with
    | array others => exact sameItems_symm items others h
    | _ => simp [same] at h
  | object members =>
    cases w with
    | object others => exact sameMembers_symm members others h
    | _ => simp [same] at h

theorem sameItems_symm (items others : List Json) (h : sameItems items others = true) :
    sameItems others items = true := by
  match items, others with
  | [], [] => rfl
  | v :: items, w :: others =>
    simp only [sameItems, Bool.and_eq_true] at h ⊢
    exact ⟨same_symm v w h.1, sameItems_symm items others h.2⟩

theorem sameMembers_symm (members others : List (String × Json))
    (h : sameMembers members others = true) : sameMembers others members = true := by
  match members, others with
  | [], [] => rfl
  | (k, v) :: members, (l, w) :: others =>
    simp only [sameMembers, Bool.and_eq_true, beq_iff_eq] at h ⊢
    exact ⟨⟨h.1.1.symm, same_symm v w h.1.2⟩, sameMembers_symm members others h.2⟩

end

mutual

theorem same_trans (u v w : Json) (h : u.same v = true) (k : v.same w = true) :
    u.same w = true := by
  cases u with
  | null =>
    cases v with
    | null => exact k
    | _ => simp [same] at h
  | bool b =>
    cases v with
    | bool c =>
      obtain rfl : b = c := by simpa [same] using h
      exact k
    | _ => simp [same] at h
  | number n =>
    cases v with
    | number m =>
      cases w with
      | number l => exact Number.same_trans h k
      | _ => simp [same] at k
    | _ => simp [same] at h
  | string s =>
    cases v with
    | string t =>
      obtain rfl : s = t := by simpa [same] using h
      exact k
    | _ => simp [same] at h
  | array items =>
    cases v with
    | array others =>
      cases w with
      | array thirds => exact sameItems_trans items others thirds h k
      | _ => simp [same] at k
    | _ => simp [same] at h
  | object members =>
    cases v with
    | object others =>
      cases w with
      | object thirds => exact sameMembers_trans members others thirds h k
      | _ => simp [same] at k
    | _ => simp [same] at h

theorem sameItems_trans (items others thirds : List Json) (h : sameItems items others = true)
    (k : sameItems others thirds = true) : sameItems items thirds = true := by
  match items, others, thirds with
  | [], [], [] => rfl
  | u :: items, v :: others, w :: thirds =>
    simp only [sameItems, Bool.and_eq_true] at h k ⊢
    exact ⟨same_trans u v w h.1 k.1, sameItems_trans items others thirds h.2 k.2⟩

theorem sameMembers_trans (members others thirds : List (String × Json))
    (h : sameMembers members others = true) (k : sameMembers others thirds = true) :
    sameMembers members thirds = true := by
  match members, others, thirds with
  | [], [], [] => rfl
  | (i, u) :: members, (j, v) :: others, (l, w) :: thirds =>
    simp only [sameMembers, Bool.and_eq_true, beq_iff_eq] at h k ⊢
    exact ⟨⟨h.1.1.trans k.1.1, same_trans u v w h.1.2 k.1.2⟩,
      sameMembers_trans members others thirds h.2 k.2⟩

end

theorem parse_empty : parse? [] = none := rfl

end Json

theorem sameDocument_iff {a b : String} : sameDocument a b = true ↔
    ∃ v w, Json.parse? a.toList = some v ∧ Json.parse? b.toList = some w ∧ v.same w = true := by
  rw [sameDocument]
  cases Json.parse? a.toList with
  | none => simp
  | some v => cases Json.parse? b.toList <;> simp

theorem sameDocument_symm {a b : String} (h : sameDocument a b = true) : sameDocument b a = true := by
  obtain ⟨v, w, reads, reads', same⟩ := sameDocument_iff.mp h
  exact sameDocument_iff.mpr ⟨w, v, reads', reads, Json.same_symm v w same⟩

theorem sameDocument_trans {a b c : String} (h : sameDocument a b = true)
    (k : sameDocument b c = true) : sameDocument a c = true := by
  obtain ⟨u, v, reads, reads', same⟩ := sameDocument_iff.mp h
  obtain ⟨v', w, again, reads'', same'⟩ := sameDocument_iff.mp k
  cases reads'.symm.trans again
  exact sameDocument_iff.mpr ⟨u, w, reads, reads'', Json.same_trans u v w same same'⟩

theorem samePolicy_iff {a b : Option String} : samePolicy a b = true ↔
    textOrEmpty a = textOrEmpty b ∨
      a.isSome ∧ b.isSome ∧ sameDocument (textOrEmpty a) (textOrEmpty b) = true := by
  cases a <;> cases b <;> simp [samePolicy, sameText, textOrEmpty]

theorem isSome_of_sameDocument {a : Option String} {b : String}
    (h : sameDocument (textOrEmpty a) b = true) : a.isSome := by
  cases a with
  | none =>
    obtain ⟨v, _, reads, _⟩ := sameDocument_iff.mp h
    cases Json.parse_empty.symm.trans reads
  | some text => rfl

theorem samePolicy_iff_text {a b : Option String} : samePolicy a b = true ↔
    textOrEmpty a = textOrEmpty b ∨ sameDocument (textOrEmpty a) (textOrEmpty b) = true := by
  rw [samePolicy_iff]
  constructor
  · rintro (same | ⟨_, _, same⟩)
    · exact .inl same
    · exact .inr same
  · rintro (same | same)
    · exact .inl same
    · exact .inr ⟨isSome_of_sameDocument same, isSome_of_sameDocument (sameDocument_symm same), same⟩

theorem samePolicy_equivalence : Equivalence fun a b => samePolicy a b = true where
  refl a := samePolicy_iff_text.mpr (.inl rfl)
  symm h := by
    rw [samePolicy_iff_text] at h ⊢
    exact h.imp Eq.symm sameDocument_symm
  trans {a b c} h k := by
    rw [samePolicy_iff_text] at h k ⊢
    rcases h with same | alike
    · rw [same]
      exact k
    · rcases k with same | alike'
      · rw [← same]
        exact .inr alike
      · exact .inr (sameDocument_trans alike alike')

end Registrar
