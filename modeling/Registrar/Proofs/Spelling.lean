import Registrar.Json.Document
import Registrar.Json.Printer

/- How strings and integers may be spelled in JSON text, and that every spelling is read as what it
   stands for. A string has many spellings, an integer has one. -/
namespace Registrar.Json

namespace Quoted

/-- The texts that stand for one character between quotes. -/
inductive Spells : Char → List Char → Prop where
  | plain {c : Char} (quote : c ≠ '"') (backslash : c ≠ '\\') (control : 0x20 ≤ c.toNat) :
      Spells c [c]
  | short {e c : Char} (stands : shortEscape? e = some c) : Spells c ['\\', e]
  | unit {h i j k c : Char} (stands : unit? h i j k = some c.toNat) :
      Spells c ['\\', 'u', h, i, j, k]
  | pair {h i j k h' i' j' k' : Char} {high low : Nat} (first : unit? h i j k = some high)
      (second : unit? h' i' j' k' = some low) (leads : isLeading high = true)
      (trails : isTrailing low = true) :
      Spells (Char.ofNat (0x10000 + (high - 0xd800) * 0x400 + (low - 0xdc00)))
        ['\\', 'u', h, i, j, k, '\\', 'u', h', i', j', k']

inductive SpellsAll : List Char → List Char → Prop where
  | nil : SpellsAll [] []
  | cons {c : Char} {cs text rest : List Char} (first : Spells c text) (others : SpellsAll cs rest) :
      SpellsAll (c :: cs) (text ++ rest)

theorem shortEscape_u : shortEscape? 'u' = none := by decide

theorem ofUnit_char (c : Char) : ofUnit c.toNat = .char c := by
  have valid : c.toNat < 0xd800 ∨ 0xdfff < c.toNat ∧ c.toNat < 0x110000 := c.valid
  have whole : (isLeading c.toNat || isTrailing c.toNat) = false := by
    simp only [isLeading, isTrailing, Bool.or_eq_false_iff, Bool.and_eq_false_iff,
      decide_eq_false_iff_not]
    omega
  rw [ofUnit, whole, Char.ofNat_toNat]
  rfl

theorem ofUnit_half {unit : Nat} (half : isLeading unit = true ∨ isTrailing unit = true) :
    ofUnit unit = .half unit := by
  have some : (isLeading unit || isTrailing unit) = true := Bool.or_eq_true _ _ |>.mpr half
  rw [ofUnit, some]
  rfl

theorem read_quote (rest : List Char) : read ('"' :: rest) = some ([], rest) := by
  rw [read.eq_def]
  rfl

theorem read_plain {c : Char} (quote : c ≠ '"') (backslash : c ≠ '\\') (control : 0x20 ≤ c.toNat)
    (rest : List Char) :
    read (c :: rest) = (read rest).map fun p => (.char c :: p.1, p.2) := by
  have printing : ¬ c.toNat < 0x20 := Nat.not_lt.mpr control
  conv => lhs; rw [read.eq_def]
  simp only [quote, backslash, printing, if_false]
  cases read rest <;> rfl

theorem read_short {e c : Char} (stands : shortEscape? e = some c) (rest : List Char) :
    read ('\\' :: e :: rest) = (read rest).map fun p => (.char c :: p.1, p.2) := by
  have other : e ≠ 'u' := by
    rintro rfl
    cases shortEscape_u.symm.trans stands
  conv => lhs; rw [read.eq_def]
  simp [other, stands]
  cases read rest <;> rfl

theorem read_unit {h i j k : Char} {unit : Nat} (stands : unit? h i j k = some unit)
    (rest : List Char) : read ('\\' :: 'u' :: h :: i :: j :: k :: rest) =
      (read rest).map fun p => (ofUnit unit :: p.1, p.2) := by
  conv => lhs; rw [read.eq_def]
  simp [stands]
  cases read rest <;> rfl

theorem read_spells {c : Char} {text : List Char} (spells : Spells c text) :
    ∃ front, (∀ rest, read (text ++ rest) = (read rest).map fun p => (front ++ p.1, p.2)) ∧
      ∀ back, text? (front ++ back) = (text? back).map (c :: ·) := by
  cases spells with
  | plain quote backslash control =>
    exact ⟨[.char c], read_plain quote backslash control, fun back => rfl⟩
  | short stands => exact ⟨[.char c], read_short stands, fun back => rfl⟩
  | unit stands =>
    refine ⟨[.char c], fun rest => ?_, fun back => rfl⟩
    rw [← ofUnit_char]
    exact read_unit stands rest
  | @pair h i j k h' i' j' k' high low first second leads trails =>
    refine ⟨[.half high, .half low], fun rest => ?_, fun back => ?_⟩
    · have whole := read_unit first ('\\' :: 'u' :: h' :: i' :: j' :: k' :: rest)
      rw [read_unit second rest, ofUnit_half (.inl leads), ofUnit_half (.inr trails),
        Option.map_map] at whole
      exact whole
    · simp [text?, leads, trails]

theorem read_spellsAll {cs text : List Char} (spells : SpellsAll cs text) :
    ∃ pieces, (∀ rest, read (text ++ '"' :: rest) = some (pieces, rest)) ∧
      text? pieces = some cs := by
  induction spells with
  | nil => exact ⟨[], read_quote, rfl⟩
  | cons first others ih =>
    obtain ⟨front, reads, makes⟩ := read_spells first
    obtain ⟨pieces, readsRest, makesRest⟩ := ih
    refine ⟨front ++ pieces, fun rest => ?_, ?_⟩
    · rw [List.append_assoc, reads, readsRest]
      rfl
    · rw [makes, makesRest]
      rfl

theorem unit_control (c : Char) (control : c.toNat < 0x20) :
    unit? '0' '0' (Nat.digitChar (c.toNat / 16)) (Nat.digitChar (c.toNat % 16)) = some c.toNat := by
  have all : ∀ n < 0x20,
      unit? '0' '0' (Nat.digitChar (n / 16)) (Nat.digitChar (n % 16)) = some n := by decide
  exact all c.toNat control

theorem spells_writeChar (c : Char) : Spells c (writeChar c) := by
  rw [writeChar]
  iterate 7
    split
    · subst_vars
      exact .short rfl
  split
  · exact .unit (unit_control c ‹_›)
  · exact .plain ‹_› ‹_› (Nat.not_lt.mp ‹_›)

theorem spells_write (s : String) :
    SpellsAll s.toList (s.toList.flatMap writeChar) := by
  induction s.toList with
  | nil => exact .nil
  | cons c cs ih => exact .cons (spells_writeChar c) ih

end Quoted

def Number.Fits (z : Int) : Prop := Number.leastInteger ≤ z ∧ z < UInt64.size

namespace Numeral

/-- What may follow a numeral without carrying it on. -/
def Ends (rest : List Char) : Prop :=
  ∀ c, rest.head? = some c → c.isDigit = false ∧ c ≠ '.' ∧ c ≠ 'e' ∧ c ≠ 'E'

def ofInt (z : Int) : Numeral := ⟨z < 0, Digits.ofNat z.natAbs, none, none⟩

theorem takeWhile_digits {ds rest : List Char} (digits : ∀ c ∈ ds, c.isDigit = true)
    (ends : Ends rest) : (ds ++ rest).takeWhile Char.isDigit = ds := by
  rw [List.takeWhile_append_of_pos digits]
  cases rest with
  | nil => simp
  | cons c rest => simp [(ends c rfl).1]

theorem dropWhile_digits {ds rest : List Char} (digits : ∀ c ∈ ds, c.isDigit = true)
    (ends : Ends rest) : (ds ++ rest).dropWhile Char.isDigit = rest := by
  rw [List.dropWhile_append_of_pos digits]
  cases rest with
  | nil => rfl
  | cons c rest => simp [(ends c rfl).1]

theorem ofNat_cons (n : Nat) : ∃ d ds, Digits.ofNat n = d :: ds ∧ d.isDigit = true := by
  cases digits : Digits.ofNat n with
  | nil => exact absurd digits Nat.toDigits_ne_nil
  | cons d ds =>
    have member : d ∈ Digits.ofNat n := by simp [digits]
    exact ⟨d, ds, rfl, Digits.isDigit_of_mem_ofNat member⟩

theorem head_ofNat {n : Nat} (positive : 0 < n) : (Digits.ofNat n).head? ≠ some '0' := by
  induction n using Nat.strongRecOn with
  | ind n ih =>
    by_cases small : n < 10
    · rw [Digits.ofNat, Nat.toDigits_of_lt_base small]
      have nonzero : ∀ d < 10, 0 < d → [Nat.digitChar d].head? ≠ some '0' := by decide
      exact nonzero n small positive
    · have split := Nat.toDigits_append_toDigits (b := 10) (n := n / 10) (d := n % 10)
        (by decide) (by omega) (by omega)
      rw [Nat.div_add_mod] at split
      have front := ih (n / 10) (by omega) (by omega)
      cases first : Nat.toDigits 10 (n / 10) with
      | nil => exact absurd first Nat.toDigits_ne_nil
      | cons d ds =>
        rw [Digits.ofNat, first] at front
        rw [Digits.ofNat, ← split, first]
        exact front

theorem readWhole_ofNat (n : Nat) {rest : List Char} (ends : Ends rest) :
    readWhole (Digits.ofNat n ++ rest) = some (Digits.ofNat n, rest) := by
  have digits : ∀ c ∈ Digits.ofNat n, c.isDigit = true := fun _ => Digits.isDigit_of_mem_ofNat
  have lone : ¬ ((Digits.ofNat n).head? = some '0' ∧ 1 < (Digits.ofNat n).length) := by
    rintro ⟨zero, long⟩
    cases n with
    | zero => exact absurd long (by decide)
    | succ n => exact head_ofNat n.succ_pos zero
  rw [readWhole, takeWhile_digits digits ends, dropWhile_digits digits ends]
  exact if_neg (not_or.mpr ⟨Nat.toDigits_ne_nil, lone⟩)

theorem readFraction_ends {rest : List Char} (ends : Ends rest) :
    readFraction rest = some (none, rest) := by
  cases rest with
  | nil => rfl
  | cons c rest => exact if_neg (ends c rfl).2.1

theorem readExponent_ends {rest : List Char} (ends : Ends rest) :
    readExponent rest = some (none, rest) := by
  cases rest with
  | nil => rfl
  | cons c rest => exact if_neg (not_or.mpr (ends c rfl).2.2)

theorem read_ofInt (z : Int) {rest : List Char} (ends : Ends rest) :
    read (Digits.ofInt z ++ rest) = some (ofInt z, rest) := by
  by_cases negative : z < 0
  · simp [read, Digits.ofInt, negative, readWhole_ofNat _ ends, readFraction_ends ends,
      readExponent_ends ends, ofInt]
  · obtain ⟨d, ds, form, digit⟩ := ofNat_cons z.natAbs
    have unsigned : d ≠ '-' := by
      rintro rfl
      cases digit
    have whole := readWhole_ofNat z.natAbs ends
    rw [form, List.cons_append] at whole
    simp [read, Digits.ofInt, negative, form, unsigned, whole, readFraction_ends ends,
      readExponent_ends ends, ofInt]

theorem le_ofDigitChars (m : Nat) (ds : List Char) : m ≤ Nat.ofDigitChars 10 ds m := by
  induction ds generalizing m with
  | nil => simp [Nat.ofDigitChars]
  | cons c ds ih =>
    rw [Nat.ofDigitChars_cons]
    have := ih (10 * m + (c.toNat - '0'.toNat))
    omega

theorem gather_fits (m : Nat) (ds : List Char) (fits : Nat.ofDigitChars 10 ds m < UInt64.size) :
    gather m ds = (Nat.ofDigitChars 10 ds m, ds.length) := by
  induction ds generalizing m with
  | nil => rfl
  | cons c ds ih =>
    rw [Nat.ofDigitChars_cons, Nat.mul_comm] at fits ⊢
    have next : m * 10 + (c.toNat - '0'.toNat) < UInt64.size :=
      Nat.lt_of_le_of_lt (le_ofDigitChars _ ds) fits
    simp only [gather, next, if_true, ih _ fits, List.length_cons]

theorem value_ofInt {z : Int} (fits : Number.Fits z) : (ofInt z).value? = some (.integer z) := by
  have size : z.natAbs < UInt64.size := by
    have := fits.1
    have := fits.2
    simp only [Number.leastInteger, UInt64.size] at *
    omega
  have gathered : gather 0 (Digits.ofNat z.natAbs) = (z.natAbs, (Digits.ofNat z.natAbs).length) := by
    have value := Digits.value_ofNat z.natAbs
    rw [Digits.value] at value
    rw [gather_fits _ _ (by rwa [value]), value]
  by_cases negative : z < 0
  · have magnitude : -(z.natAbs : Int) = z := by omega
    have nonzero : z.natAbs ≠ 0 := by omega
    have least : Number.leastInteger ≤ -(z.natAbs : Int) := by
      rw [magnitude]
      exact fits.1
    simp only [value?, ofInt, gathered, negative, decide_true, Nat.sub_self, if_true]
    rw [if_pos ⟨nonzero, least⟩, magnitude]
  · have magnitude : (z.natAbs : Int) = z := by omega
    simp only [value?, ofInt, gathered, negative, decide_false, Nat.sub_self, if_true,
      Bool.false_eq_true, if_false, magnitude]

end Numeral
end Registrar.Json
