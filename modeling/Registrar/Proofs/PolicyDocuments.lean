import Registrar.Proofs.NormalForm
import Registrar.Proofs.Sameness

/- Policy texts and the documents they say. However a document is laid out and spelled, it is read as
   one value, so that two texts are the same policy exactly if their documents are the same up to the
   order of members. -/
namespace Registrar

namespace Json

mutual

theorem eq_of_same {depth : Nat} (v w : Json) (plain : Plain depth v) (same : v.same w = true) :
    v = w := by
  cases v with
  | null => cases w <;> first | rfl | cases same
  | bool b => cases w <;> simp_all [Json.same]
  | number n =>
    cases w with
    | number m =>
      cases n with
      | integer z => cases m <;> simp_all [Json.same, Number.same]
      | float x => cases plain
    | _ => cases same
  | string s => cases w <;> simp_all [Json.same]
  | array items =>
    cases w with
    | array others =>
      cases depth with
      | zero => cases plain
      | succ depth => rw [eq_of_sameItems items others plain same]
    | _ => cases same
  | object members =>
    cases w with
    | object others =>
      cases depth with
      | zero => cases plain
      | succ depth => rw [eq_of_sameMembers members others plain.2 same]
    | _ => cases same

theorem eq_of_sameItems {depth : Nat} (items others : List Json) (plain : PlainItems depth items)
    (same : sameItems items others = true) : items = others := by
  match items, others with
  | [], [] => rfl
  | v :: items, w :: others =>
    obtain ⟨first, rest⟩ := (Bool.and_eq_true _ _).mp same
    rw [eq_of_same v w plain.1 first, eq_of_sameItems items others plain.2 rest]

theorem eq_of_sameMembers {depth : Nat} (members others : List (String × Json))
    (plain : PlainMembers depth members) (same : sameMembers members others = true) :
    members = others := by
  match members, others with
  | [], [] => rfl
  | (k, v) :: members, (l, w) :: others =>
    obtain ⟨first, rest⟩ := (Bool.and_eq_true _ _).mp same
    obtain ⟨named, first⟩ := (Bool.and_eq_true _ _).mp first
    rw [beq_iff_eq.mp named, eq_of_same v w plain.1 first,
      eq_of_sameMembers members others plain.2 rest]

end

/-- The texts that say a value: with space around it and between its tokens, with its members in any
    order, and with any spelling of its strings. -/
inductive WrittenAs (v : Json) : List Char → Prop where
  | intro {u : Json} {w t w' : List Char} (same : Reordered v u) (before : Space w)
      (written : Renders u t) (after : Space w') : WrittenAs v (w ++ (t ++ w'))

theorem parse?_writtenAs {v : Json} {text : List Char} (plain : Plain Document.greatestDepth v)
    (written : WrittenAs v text) : parse? text = some v.ordered := by
  obtain ⟨same, before, written, after⟩ := written
  rw [parse?_rendered (plain.reordered v same) before written after,
    ordered_of_reordered v plain same]

end Json

open Json

section
variable {v w : Json} {a b : String}

theorem samePolicy_read (read : parse? a.toList = some v) :
    samePolicy (some a) (some b) = true ↔ sameDocument a b = true := by
  rw [samePolicy_iff_text]
  constructor
  · rintro (same | same)
    · obtain rfl : a = b := same
      exact sameDocument_iff.mpr ⟨v, v, read, read, Json.same_refl v⟩
    · exact same
  · exact .inr

theorem samePolicy_unread (unread : parse? a.toList = none ∨ parse? b.toList = none) :
    samePolicy (some a) (some b) = true ↔ a = b := by
  have different : ¬ sameDocument a b = true := by
    intro same
    obtain ⟨v, w, read, read', _⟩ := sameDocument_iff.mp same
    rcases unread with none | none
    · cases none.symm.trans read
    · cases none.symm.trans read'
  rw [samePolicy_iff_text]
  exact or_iff_left different

theorem sameDocument_writtenAs (plain : Plain Document.greatestDepth v)
    (plain' : Plain Document.greatestDepth w) (written : WrittenAs v a.toList)
    (written' : WrittenAs w b.toList) : sameDocument a b = true ↔ Reordered v w := by
  have ordered : Plain Document.greatestDepth v.ordered :=
    plain.reordered v (reordered_ordered v plain)
  rw [reordered_iff_ordered plain plain', sameDocument, parse?_writtenAs plain written,
    parse?_writtenAs plain' written']
  constructor
  · exact eq_of_same v.ordered w.ordered ordered
  · intro same
    rw [same]
    exact Json.same_refl w.ordered

end

/-- Texts of values without fractions are the same policy exactly if the values are the same up to the
    order of members. A text that says no value is the same policy as itself alone. -/
theorem policies_compared_as_documents :
    (∀ (v w : Json) (a b : String), Plain 127 v → Plain 127 w → WrittenAs v a.toList →
      WrittenAs w b.toList → (samePolicy (some a) (some b) = true ↔ Reordered v w)) ∧
    ∀ a b : String, parse? a.toList = none ∨ parse? b.toList = none →
      (samePolicy (some a) (some b) = true ↔ a = b) := by
  constructor
  · intro v w a b plain plain' written written'
    rw [samePolicy_read (parse?_writtenAs plain written)]
    exact sameDocument_writtenAs plain plain' written written'
  · intro a b unread
    exact samePolicy_unread unread

theorem rewritten_document_is_same_policy :
    let v : Json := .object [("Id", .string "😀"), ("Version", .natural 2)]
    let a := "\x7b\"Id\":\"\\ud83d\\ude00\",\"Version\":2\x7d"
    let b := "\x7b\"Version\" : 2, \"I\\u0064\":\"😀\"\x7d "
    Plain 127 v ∧ WrittenAs v a.toList ∧ WrittenAs v b.toList ∧
      samePolicy (some a) (some b) = true ∧ ¬ samePolicy (some a) (some "\x7b") = true := by
  intro v a b
  have fits : Number.Fits 2 := ⟨by decide, by decide⟩
  have plain : Plain 127 v := ⟨by decide, trivial, fits, trivial⟩
  have face : Quoted.Spells '😀' ['\\', 'u', 'd', '8', '3', 'd', '\\', 'u', 'd', 'e', '0', '0'] :=
    @Quoted.Spells.pair _ _ _ _ _ _ _ _ 0xd83d 0xde00 rfl rfl rfl rfl
  have letter : Quoted.Spells 'd' ['\\', 'u', '0', '0', '6', '4'] := .unit rfl
  have faces : Quoted.SpellsAll "😀".toList _ := .cons face .nil
  have id : Quoted.SpellsAll "Id".toList _ :=
    .cons (Quoted.spells_writeChar 'I') (.cons letter .nil)
  have written : WrittenAs v a.toList := by
    refine (congrArg v.WrittenAs ?_).mpr (.intro (.refl v) space_nil (.object
      (.more space_nil (Quoted.spells_write "Id") space_nil space_nil (.string faces) space_nil
        (.last space_nil (Quoted.spells_write "Version") space_nil space_nil (.integer fits) space_nil)))
      space_nil)
    decide
  have written' : WrittenAs v b.toList := by
    refine (congrArg v.WrittenAs ?_).mpr (.intro (.object (.refl _) (.swap _ _ _)) space_nil (.object
      (.more space_nil (Quoted.spells_write "Version") space_one space_one (.integer fits) space_nil
        (.last space_one id space_nil space_nil (.string (Quoted.spells_write "😀")) space_nil)))
      space_one)
    decide
  refine ⟨plain, written, written', ?_, ?_⟩
  · exact (policies_compared_as_documents.1 v v a b plain plain written written').mpr (.refl v)
  · rw [policies_compared_as_documents.2 a "\x7b" (.inr rfl)]
    decide

end Registrar
