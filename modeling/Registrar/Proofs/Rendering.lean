import Mathlib.Data.List.DropRight
import Registrar.Proofs.Spelling

/- Texts that say a JSON value, in any layout and with any spelling of its strings, and that reading
   such a text gives the value back. The printers' layouts are two of them. -/
namespace Registrar.Json

open Document (isSpace skipSpace readValue readItems readMembers)

def Space (w : List Char) : Prop := ∀ c ∈ w, isSpace c = true

mutual

/-- The texts that say a value of integers, its members in their order. -/
inductive Renders : Json → List Char → Prop where
  | null : Renders .null ['n', 'u', 'l', 'l']
  | yes : Renders (.bool true) ['t', 'r', 'u', 'e']
  | no : Renders (.bool false) ['f', 'a', 'l', 's', 'e']
  | integer {z : Int} (fits : Number.Fits z) : Renders (.number (.integer z)) (Digits.ofInt z)
  | string {s : String} {t : List Char} (spells : Quoted.SpellsAll s.toList t) :
      Renders (.string s) ('"' :: (t ++ ['"']))
  | emptyArray {w : List Char} (space : Space w) : Renders (.array []) ('[' :: (w ++ [']']))
  | array {items : List Json} {t : List Char} (inner : RendersItems items t) :
      Renders (.array items) ('[' :: (t ++ [']']))
  | emptyObject {w : List Char} (space : Space w) : Renders (.object []) ('\x7b' :: (w ++ ['\x7d']))
  | object {members : List (String × Json)} {t : List Char} (inner : RendersMembers members t) :
      Renders (.object members) ('\x7b' :: (t ++ ['\x7d']))

inductive RendersItems : List Json → List Char → Prop where
  | last {v : Json} {w t w' : List Char} (before : Space w) (written : Renders v t) (after : Space w') :
      RendersItems [v] (w ++ (t ++ w'))
  | more {v : Json} {items : List Json} {w t w' rest : List Char} (before : Space w)
      (written : Renders v t) (after : Space w') (others : RendersItems items rest) :
      RendersItems (v :: items) (w ++ (t ++ (w' ++ ',' :: rest)))

inductive RendersMembers : List (String × Json) → List Char → Prop where
  | last {name : String} {v : Json} {w₁ n w₂ w₃ t w₄ : List Char} (before : Space w₁)
      (spells : Quoted.SpellsAll name.toList n) (named : Space w₂) (colon : Space w₃)
      (written : Renders v t) (after : Space w₄) :
      RendersMembers [(name, v)] (w₁ ++ ('"' :: (n ++ '"' :: (w₂ ++ ':' :: (w₃ ++ (t ++ w₄))))))
  | more {name : String} {v : Json} {members : List (String × Json)}
      {w₁ n w₂ w₃ t w₄ rest : List Char} (before : Space w₁)
      (spells : Quoted.SpellsAll name.toList n) (named : Space w₂) (colon : Space w₃)
      (written : Renders v t) (after : Space w₄) (others : RendersMembers members rest) :
      RendersMembers ((name, v) :: members)
        (w₁ ++ ('"' :: (n ++ '"' :: (w₂ ++ ':' :: (w₃ ++ (t ++ (w₄ ++ ',' :: rest)))))))

end

theorem skipSpace_append {w : List Char} (space : Space w) (rest : List Char) :
    skipSpace (w ++ rest) = skipSpace rest :=
  List.dropWhile_append_of_pos space

theorem skipSpace_cons {c : Char} (solid : isSpace c = false) (rest : List Char) :
    skipSpace (c :: rest) = c :: rest := by
  simp [skipSpace, solid]

theorem skipSpace_idem (text : List Char) : skipSpace (skipSpace text) = skipSpace text := by
  exact List.dropWhile_idempotent isSpace text

theorem readValue_skipSpace (steps : Nat) (text : List Char) :
    readValue steps (skipSpace text) = readValue steps text := by
  cases steps with
  | zero => rfl
  | succ steps => simp only [readValue, skipSpace_idem]

theorem readValue_space {w : List Char} (space : Space w) (steps : Nat) (rest : List Char) :
    readValue steps (w ++ rest) = readValue steps rest := by
  rw [← readValue_skipSpace, skipSpace_append space, readValue_skipSpace]

theorem readItems_skipSpace (steps : Nat) (text : List Char) :
    readItems steps (skipSpace text) = readItems steps text := by
  cases steps with
  | zero => rfl
  | succ steps => simp only [readItems, readValue_skipSpace]

theorem readMembers_skipSpace (steps : Nat) (text : List Char) :
    readMembers steps (skipSpace text) = readMembers steps text := by
  cases steps with
  | zero => rfl
  | succ steps => simp only [readMembers, readValue_skipSpace]

theorem numeric_alone {c : Char} (numeric : c = '-' ∨ c.isDigit = true) :
    isSpace c = false ∧ c ≠ '"' ∧ c ≠ '[' ∧ c ≠ '\x7b' ∧ c ≠ ']' ∧ c ≠ '\x7d' ∧ c ≠ 'n' ∧ c ≠ 't' ∧
      c ≠ 'f' := by
  rcases numeric with rfl | digit
  · decide
  · have solid : isSpace c = false := by
      rw [Bool.eq_false_iff]
      intro blank
      simp only [isSpace, Bool.or_eq_true, decide_eq_true_eq] at blank
      rcases blank with ((rfl | rfl) | rfl) | rfl <;> cases digit
    refine ⟨solid, ?_, ?_, ?_, ?_, ?_, ?_, ?_, ?_⟩ <;> (rintro rfl; cases digit)

theorem ofInt_cons (z : Int) :
    ∃ c cs, Digits.ofInt z = c :: cs ∧ (c = '-' ∨ c.isDigit = true) := by
  rw [Digits.ofInt]
  split
  · exact ⟨_, _, rfl, .inl rfl⟩
  · obtain ⟨d, ds, form, digit⟩ := Numeral.ofNat_cons z.natAbs
    exact ⟨d, ds, form, .inr digit⟩

theorem Renders.head {v : Json} {t : List Char} (written : Renders v t) :
    ∃ c t', t = c :: t' ∧ isSpace c = false ∧ c ≠ ']' := by
  cases written with
  | integer fits =>
    obtain ⟨c, cs, form, numeric⟩ := ofInt_cons _
    obtain ⟨solid, _, _, _, open_, _⟩ := numeric_alone numeric
    exact ⟨c, cs, form, solid, open_⟩
  | _ => exact ⟨_, _, rfl, by decide, by decide⟩

theorem RendersItems.head {items : List Json} {t : List Char} (written : RendersItems items t)
    (rest : List Char) : ∃ c t', skipSpace (t ++ rest) = c :: t' ∧ c ≠ ']' := by
  cases written with
  | last before written after =>
    obtain ⟨c, t', rfl, solid, opens⟩ := written.head
    rw [List.append_assoc, skipSpace_append before, List.append_assoc, List.cons_append,
      skipSpace_cons solid]
    exact ⟨c, _, rfl, opens⟩
  | more before written after others =>
    obtain ⟨c, t', rfl, solid, opens⟩ := written.head
    rw [List.append_assoc, skipSpace_append before, List.append_assoc, List.cons_append,
      skipSpace_cons solid]
    exact ⟨c, _, rfl, opens⟩

theorem RendersMembers.head {members : List (String × Json)} {t : List Char}
    (written : RendersMembers members t) (rest : List Char) :
    ∃ t', skipSpace (t ++ rest) = '"' :: t' := by
  cases written with
  | last before spells named colon written after =>
    rw [List.append_assoc, skipSpace_append before, List.cons_append, skipSpace_cons (by decide)]
    exact ⟨_, rfl⟩
  | more before spells named colon written after others =>
    rw [List.append_assoc, skipSpace_append before, List.cons_append, skipSpace_cons (by decide)]
    exact ⟨_, rfl⟩

theorem space_ends {c : Char} (blank : isSpace c = true) :
    c.isDigit = false ∧ c ≠ '.' ∧ c ≠ 'e' ∧ c ≠ 'E' := by
  simp only [isSpace, Bool.or_eq_true, decide_eq_true_eq] at blank
  rcases blank with ((rfl | rfl) | rfl) | rfl <;> decide

theorem ends_of_space {w : List Char} (space : Space w) : Numeral.Ends w :=
  fun _ first => space_ends (space _ (List.mem_of_head? first))

theorem ends_space {w : List Char} (space : Space w) {c : Char} (parts : c ∈ [',', ']', '\x7d'])
    (rest : List Char) : Numeral.Ends (w ++ c :: rest) := by
  intro d first
  cases w with
  | nil =>
    obtain rfl : c = d := by simpa using first
    simp only [List.mem_cons, List.not_mem_nil, or_false] at parts
    rcases parts with rfl | rfl | rfl <;> decide
  | cons b w =>
    obtain rfl : b = d := by simpa using first
    exact space_ends (space b List.mem_cons_self)

section
variable {steps : Nat} {text after rest more : List Char}

theorem readValue_string {s : String} {t : List Char} (spells : Quoted.SpellsAll s.toList t)
    (steps : Nat) (rest : List Char) :
    readValue (steps + 1) ('"' :: (t ++ '"' :: rest)) = (.string (some s), some rest) := by
  obtain ⟨pieces, reads, makes⟩ := Quoted.read_spellsAll spells
  simp [readValue, skipSpace_cons (show isSpace '"' = false by decide), Document.readString, reads,
    makes]

theorem readValue_integer {z : Int} (fits : Number.Fits z) (steps : Nat) (ends : Numeral.Ends rest) :
    readValue (steps + 1) (Digits.ofInt z ++ rest) =
      (.number (some (.integer z)), some rest) := by
  have reads := Numeral.read_ofInt z ends
  obtain ⟨c, cs, form, numeric⟩ := ofInt_cons z
  obtain ⟨solid, quote, bracket, brace, _, _, n, t, f⟩ := numeric_alone numeric
  have word : Document.readWord (c :: (cs ++ rest)) = none := by
    rw [Document.readWord.eq_def]
    split <;> simp_all
  rw [form, List.cons_append] at reads ⊢
  simp [readValue, skipSpace_cons solid, quote, bracket, brace, Document.readScalar, word, reads,
    Numeral.value_ofInt fits]

theorem readValue_array {items : List Document} {c : Char} {t : List Char}
    (opens : skipSpace text = c :: t) (goes : c ≠ ']')
    (reads : readItems steps text = (items, some rest)) :
    readValue (steps + 1) ('[' :: text) = (.array items true, some rest) := by
  rw [← readItems_skipSpace, opens] at reads
  simp [readValue, skipSpace_cons (show isSpace '[' = false by decide), opens, goes, reads]

theorem readValue_emptyArray {w : List Char} (space : Space w) (steps : Nat) (rest : List Char) :
    readValue (steps + 1) ('[' :: (w ++ ']' :: rest)) = (.array [] true, some rest) := by
  simp [readValue, skipSpace_cons (show isSpace '[' = false by decide), skipSpace_append space,
    skipSpace_cons (show isSpace ']' = false by decide)]

theorem readValue_object {members : List (Document × Document)} {t : List Char}
    (opens : skipSpace text = '"' :: t) (reads : readMembers steps text = (members, some rest)) :
    readValue (steps + 1) ('\x7b' :: text) = (.object members true, some rest) := by
  rw [← readMembers_skipSpace, opens] at reads
  simp [readValue, skipSpace_cons (show isSpace '\x7b' = false by decide), opens, reads]

theorem readValue_emptyObject {w : List Char} (space : Space w) (steps : Nat) (rest : List Char) :
    readValue (steps + 1) ('\x7b' :: (w ++ '\x7d' :: rest)) = (.object [] true, some rest) := by
  simp [readValue, skipSpace_cons (show isSpace '\x7b' = false by decide), skipSpace_append space,
    skipSpace_cons (show isSpace '\x7d' = false by decide)]

theorem readItems_last {item : Document} (value : readValue steps text = (item, some after))
    (closes : skipSpace after = ']' :: rest) :
    readItems (steps + 1) text = ([item], some rest) := by
  simp [readItems, value, closes]

theorem readItems_more {item : Document} {items : List Document}
    (value : readValue steps text = (item, some after)) (goes : skipSpace after = ',' :: more)
    (others : readItems steps more = (items, some rest)) :
    readItems (steps + 1) text = (item :: items, some rest) := by
  simp [readItems, value, goes, others]

theorem readMembers_last {name : Option String} {value : Document} {colon named : List Char}
    (reads : readValue steps text = (.string name, some named))
    (parts : skipSpace named = ':' :: colon)
    (written : readValue steps colon = (value, some after))
    (closes : skipSpace after = '\x7d' :: rest) :
    readMembers (steps + 1) text = ([(.string name, value)], some rest) := by
  simp [readMembers, reads, parts, written, closes]

theorem readMembers_more {name : Option String} {value : Document} {colon named : List Char}
    {members : List (Document × Document)}
    (reads : readValue steps text = (.string name, some named))
    (parts : skipSpace named = ':' :: colon)
    (written : readValue steps colon = (value, some after))
    (goes : skipSpace after = ',' :: more)
    (others : readMembers steps more = (members, some rest)) :
    readMembers (steps + 1) text = ((.string name, value) :: members, some rest) := by
  simp [readMembers, reads, parts, written, goes, others]

end

mutual

/-- A text that renders a value is read as the document of that value, up to where the text ends. Two
    steps for each character are enough. -/
theorem readValue_rendered (v : Json) {t : List Char} (written : Renders v t) {steps : Nat}
    (enough : 2 * t.length ≤ steps) {rest : List Char} (ends : Numeral.Ends rest) :
    readValue steps (t ++ rest) = (v.document, some rest) := by
  obtain ⟨steps, rfl⟩ : ∃ n, steps = n + 1 := by
    obtain ⟨c, t', rfl, _⟩ := written.head
    exact ⟨steps - 1, by simp only [List.length_cons] at enough; omega⟩
  cases written with
  | null => rfl
  | yes => rfl
  | no => rfl
  | integer fits => exact readValue_integer fits steps ends
  | string spells =>
    simp only [List.cons_append, List.append_assoc]
    exact readValue_string spells steps rest
  | emptyArray space =>
    simp only [List.cons_append, List.append_assoc]
    exact readValue_emptyArray space steps rest
  | @array items t inner =>
    obtain ⟨c, t', opens, goes⟩ := inner.head (']' :: rest)
    simp only [List.length_cons, List.length_append] at enough
    simp only [List.cons_append, List.append_assoc]
    exact readValue_array opens goes (readItems_rendered items inner (by omega) rest)
  | emptyObject space =>
    simp only [List.cons_append, List.append_assoc]
    exact readValue_emptyObject space steps rest
  | @object members t inner =>
    obtain ⟨t', opens⟩ := inner.head ('\x7d' :: rest)
    simp only [List.length_cons, List.length_append] at enough
    simp only [List.cons_append, List.append_assoc]
    exact readValue_object opens (readMembers_rendered members inner (by omega) rest)

theorem readItems_rendered (items : List Json) {t : List Char} (written : RendersItems items t)
    {steps : Nat} (enough : 2 * (t.length + 1) ≤ steps) (rest : List Char) :
    readItems steps (t ++ ']' :: rest) = (documents items, some rest) := by
  obtain ⟨steps, rfl⟩ : ∃ n, steps = n + 1 := ⟨steps - 1, by omega⟩
  cases written with
  | @last v w t w' before written after =>
    simp only [List.length_append] at enough
    have room : 2 * t.length ≤ steps := by omega
    have value := readValue_rendered v written room (ends_space after (c := ']') (by decide) rest)
    rw [← readValue_space before] at value
    simp only [List.append_assoc]
    refine readItems_last value ?_
    rw [skipSpace_append after, skipSpace_cons (by decide)]
  | @more v items w t w' others before written after tail =>
    simp only [List.length_append, List.length_cons] at enough
    have room : 2 * t.length ≤ steps := by omega
    have value := readValue_rendered v written room
      (ends_space after (c := ',') (by decide) (others ++ ']' :: rest))
    rw [← readValue_space before] at value
    simp only [List.append_assoc, List.cons_append]
    refine readItems_more value ?_ (readItems_rendered items tail (by omega) rest)
    rw [skipSpace_append after, skipSpace_cons (by decide)]

theorem readMembers_rendered (members : List (String × Json)) {t : List Char}
    (written : RendersMembers members t) {steps : Nat} (enough : 2 * (t.length + 1) ≤ steps)
    (rest : List Char) :
    readMembers steps (t ++ '\x7d' :: rest) = (documentMembers members, some rest) := by
  obtain ⟨steps, rfl⟩ : ∃ n, steps = n + 2 := ⟨steps - 2, by omega⟩
  cases written with
  | @last name v w₁ n w₂ w₃ t w₄ before spells named colon written after =>
    simp only [List.length_append, List.length_cons] at enough
    have name := readValue_string spells steps
      (w₂ ++ ':' :: (w₃ ++ (t ++ (w₄ ++ '\x7d' :: rest))))
    have room : 2 * t.length ≤ steps + 1 := by omega
    have value := readValue_rendered v written room
      (ends_space after (c := '\x7d') (by decide) rest)
    rw [← readValue_space before] at name
    rw [← readValue_space colon] at value
    simp only [List.append_assoc, List.cons_append]
    refine readMembers_last name ?_ value ?_
    · rw [skipSpace_append named, skipSpace_cons (by decide)]
    · rw [skipSpace_append after, skipSpace_cons (by decide)]
  | @more name v members w₁ n w₂ w₃ t w₄ others before spells named colon written after tail =>
    simp only [List.length_append, List.length_cons] at enough
    have name := readValue_string spells steps
      (w₂ ++ ':' :: (w₃ ++ (t ++ (w₄ ++ ',' :: (others ++ '\x7d' :: rest)))))
    have room : 2 * t.length ≤ steps + 1 := by omega
    have value := readValue_rendered v written room
      (ends_space after (c := ',') (by decide) (others ++ '\x7d' :: rest))
    rw [← readValue_space before] at name
    rw [← readValue_space colon] at value
    simp only [List.append_assoc, List.cons_append]
    refine readMembers_more name ?_ value ?_ (readMembers_rendered members tail (by omega) rest)
    · rw [skipSpace_append named, skipSpace_cons (by decide)]
    · rw [skipSpace_append after, skipSpace_cons (by decide)]

end

theorem ofText_rendered {v : Json} {w t w' : List Char} (before : Space w) (written : Renders v t)
    (after : Space w') : Document.ofText (w ++ (t ++ w')) = (v.document, true) := by
  have room : 2 * t.length ≤ 2 * (w ++ (t ++ w')).length + 2 := by
    simp only [List.length_append]
    omega
  have reads := readValue_rendered v written room (ends_of_space after)
  rw [← readValue_space before] at reads
  have nothing : skipSpace w' = [] := by simpa [skipSpace] using skipSpace_append after []
  simp only [Document.ofText, reads, Option.map_some, nothing]
  rfl

end Registrar.Json
