import Mathlib.Data.List.DropRight
import Registrar.Timestamp.Text

/- The calendar and its text. Numbering days and naming them are inverse, every number names a day
   that exists, and an instant of a year that has four digits is read back from its text. -/
namespace Registrar

namespace Day

/-- A day of an era, split into centuries, spans of four years, years and days of the year; years
    begin with March. The last year of a span is longer, except for that of a century, except for
    that of the era. -/
structure Splits (d c q r f : Int) : Prop where
  total : d = 36524 * c + 1461 * q + 365 * r + f
  century : 0 ≤ c ∧ c ≤ 3
  span : 0 ≤ q ∧ q ≤ 24
  year : 0 ≤ r ∧ r ≤ 3
  day : 0 ≤ f ∧ f ≤ 365
  leap : f = 365 → r = 3 ∧ (q = 24 → c = 3)

theorem exists_splits {d : Int} (start : 0 ≤ d) (stop : d < 146097) : ∃ c q r f, Splits d c q r f := by
  obtain ⟨c, hc⟩ : ∃ c, c = min (d / 36524) 3 := ⟨_, rfl⟩
  obtain ⟨q, hq⟩ : ∃ q, q = (d - 36524 * c) / 1461 := ⟨_, rfl⟩
  obtain ⟨r, hr⟩ : ∃ r, r = min ((d - 36524 * c - 1461 * q) / 365) 3 := ⟨_, rfl⟩
  refine ⟨c, q, r, d - 36524 * c - 1461 * q - 365 * r, ?_⟩
  constructor <;> omega

theorem Splits.yearOfEra {d c q r f : Int} (splits : Splits d c q r f) :
    (d - d / 1460 + d / 36524 - d / 146096) / 365 = 100 * c + 4 * q + r := by
  obtain ⟨total, century, span, year, day, leap⟩ := splits
  have centuries : d / 36524 - d / 146096 = c := by
    by_cases last : d = 146096
    · omega
    · have within : 1461 * q + 365 * r + f ≤ 36523 := by omega
      have : d / 36524 = c := by omega
      omega
  have spans : d / 1460 = 25 * c + q ∧ f ≤ 364 ∨ d / 1460 = 25 * c + q + 1 ∧ 1 ≤ f := by
    by_cases early : 24 * c + q + 365 * r + f < 1460
    · left
      constructor <;> omega
    · right
      constructor <;> omega
  omega

theorem Splits.before {d c q r f : Int} (splits : Splits d c q r f) :
    365 * (100 * c + 4 * q + r) + (100 * c + 4 * q + r) / 4 - (100 * c + 4 * q + r) / 100 = d - f := by
  obtain ⟨total, century, span, year, day, leap⟩ := splits
  have spans : (100 * c + 4 * q + r) / 4 = 25 * c + q := by omega
  have centuries : (100 * c + 4 * q + r) / 100 = c := by omega
  omega

theorem Splits.leapYear {d c q r f : Int} (splits : Splits d c q r f) (last : f = 365) (era : Int) :
    leapYear (400 * era + (100 * c + 4 * q + r) + 1) = true := by
  obtain ⟨total, century, span, year, day, leap⟩ := splits
  simp only [Day.leapYear, Bool.and_eq_true, Bool.or_eq_true, decide_eq_true_eq]
  omega

theorem month_bounds {f : Int} (days : 0 ≤ f ∧ f ≤ 365) :
    0 ≤ (5 * f + 2) / 153 ∧ (5 * f + 2) / 153 ≤ 11 := by
  omega

theorem late_iff {m : Int} (months : 0 ≤ m ∧ m ≤ 11) :
    (if m < 10 then m + 3 else m - 9) ≤ 2 ↔ ¬ m < 10 := by
  split <;> omega

theorem ofNumber_spec (n : Int) : ∃ era y f m : Int,
    n + 719468 = 146097 * era + (365 * y + y / 4 - y / 100) + f ∧ (0 ≤ y ∧ y ≤ 399) ∧
      (0 ≤ f ∧ f ≤ 365) ∧ (f = 365 → leapYear (400 * era + y + 1) = true) ∧ m = (5 * f + 2) / 153 ∧
      ofNumber n = ⟨400 * era + y + (if m < 10 then 0 else 1),
        (if m < 10 then m + 3 else m - 9).toNat, (f - (153 * m + 2) / 5 + 1).toNat⟩ := by
  obtain ⟨c, q, r, f, splits⟩ := exists_splits (d := (n + 719468) % 146097) (by omega) (by omega)
  obtain ⟨y, hy⟩ : ∃ y, y = 100 * c + 4 * q + r := ⟨_, rfl⟩
  have years : 0 ≤ y ∧ y ≤ 399 := by
    have := splits.century
    have := splits.span
    have := splits.year
    omega
  have before := splits.before
  rw [← hy] at before
  have whole : n + 719468 = 146097 * ((n + 719468) / 146097) + (365 * y + y / 4 - y / 100) + f := by
    omega
  have inYear : (n + 719468) % 146097 - (365 * y + y / 4 - y / 100) = f := by omega
  have first := splits.yearOfEra
  rw [← hy] at first
  refine ⟨(n + 719468) / 146097, y, f, (5 * f + 2) / 153, whole, years, splits.day,
    fun last => hy ▸ splits.leapYear last _, rfl, ?_⟩
  simp only [ofNumber, first, inYear, late_iff (month_bounds splits.day), ite_not]
  rw [Int.add_comm y, Int.mul_comm _ 400]

theorem number_ofNumber (n : Int) : (ofNumber n).number = n := by
  obtain ⟨era, y, f, m, total, years, days, -, month, form⟩ := ofNumber_spec n
  have months : 0 ≤ m ∧ m ≤ 11 := month ▸ month_bounds days
  rw [form, number]
  by_cases early : m < 10
  · have late : ¬ (m + 3).toNat ≤ 2 := by omega
    simp only [early, late, if_true, if_false]
    omega
  · have start : (m - 9).toNat ≤ 2 := by omega
    simp only [early, start, if_true, if_false]
    omega

theorem exists_ofNumber (n : Int) : (ofNumber n).exists? = true := by
  obtain ⟨era, y, f, m, -, -, days, leap, month, form⟩ := ofNumber_spec n
  rw [form]
  by_cases february : m = 11
  · by_cases last : f = 365
    · simp [exists?, daysInMonth, february, last, leap last]
    · simp [exists?, daysInMonth, february]
      split <;> omega
  · have others : m = 0 ∨ m = 1 ∨ m = 2 ∨ m = 3 ∨ m = 4 ∨ m = 5 ∨ m = 6 ∨ m = 7 ∨ m = 8 ∨ m = 9 ∨
        m = 10 := by omega
    rcases others with rfl | rfl | rfl | rfl | rfl | rfl | rfl | rfl | rfl | rfl | rfl <;>
      simp [exists?, daysInMonth] <;> omega

theorem daysInMonth_le (y : Int) (m : Nat) : daysInMonth y m ≤ 31 := by
  rw [daysInMonth]
  split
  · split <;> decide
  · split <;> decide

theorem exists_bounds {d : Day} (exists_ : d.exists? = true) : d.month ≤ 12 ∧ d.day ≤ 31 := by
  simp only [exists?, Bool.and_eq_true, decide_eq_true_eq] at exists_
  have := daysInMonth_le d.year d.month
  omega

theorem ofNumber_year_le {n : Int} (early : n ≤ 2932895) : (ofNumber n).year ≤ 9999 := by
  obtain ⟨era, y, f, m, total, years, days, -, month, form⟩ := ofNumber_spec n
  rw [form]
  have eras : era ≤ 24 := by omega
  show 400 * era + y + (if m < 10 then 0 else 1) ≤ 9999
  split <;> omega

end Day

namespace Digits

theorem length_padded {width n : Nat} (wide : 0 < width) (small : n < tenTo width) :
    (padded width n).length = width := by
  have fits : (ofNat n).length ≤ width := (Nat.length_toDigits_le_iff (by decide) wide).mpr small
  rw [padded, List.length_append, List.length_replicate]
  omega

theorem value_padded (width n : Nat) : value (padded width n) = n := by
  rw [value, padded, Nat.ofDigitChars_append, Nat.ofDigitChars_replicate_zero, Nat.mul_zero]
  exact value_ofNat n

theorem isDigit_of_mem_padded {width n : Nat} {c : Char} (member : c ∈ padded width n) :
    c.isDigit = true := by
  rcases List.mem_append.mp member with zero | digit
  · rw [List.eq_of_mem_replicate zero]
    decide
  · exact isDigit_of_mem_ofNat digit

theorem take?_padded {width n : Nat} (wide : 0 < width) (small : n < tenTo width)
    (rest : List Char) : take? width (padded width n ++ rest) = some (n, rest) := by
  have length := length_padded wide small
  have front : (padded width n ++ rest).take width = padded width n := List.take_left' length
  have back : (padded width n ++ rest).drop width = rest := List.drop_left' length
  have digits : (padded width n).all Char.isDigit = true :=
    List.all_eq_true.mpr fun c member => isDigit_of_mem_padded member
  rw [take?, front, back, value_padded]
  exact if_pos ⟨length, digits⟩

theorem take?_two {n : Nat} (small : n < 100) (rest : List Char) :
    take? 2 (padded 2 n ++ rest) = some (n, rest) :=
  take?_padded (by decide) small rest

theorem take?_four {n : Nat} (small : n < 10000) (rest : List Char) :
    take? 4 (padded 4 n ++ rest) = some (n, rest) :=
  take?_padded (by decide) small rest

theorem after?_cons (c : Char) (rest : List Char) : after? c (c :: rest) = some rest :=
  if_pos rfl

end Digits

namespace Timestamp

def year (t : Timestamp) : Int := (Day.ofNumber (t.seconds / 86400)).year

theorem year_le (t : Timestamp) : t.year ≤ 9999 := by
  apply Day.ofNumber_year_le
  have := t.not_after
  omega

theorem readFraction_write {nanos : Nat} (small : nanos < 1000000000) :
    readFraction (writeFraction nanos ++ ['Z']) = some (nanos, ['Z']) := by
  by_cases whole : nanos = 0
  · rw [writeFraction, if_pos whole, whole]
    rfl
  · obtain ⟨kept, hk⟩ : ∃ kept, kept = (Digits.padded 9 nanos).rdropWhile (· = '0') := ⟨_, rfl⟩
    obtain ⟨zeros, hz⟩ : ∃ zeros, zeros = (Digits.padded 9 nanos).rtakeWhile (· = '0') := ⟨_, rfl⟩
    have parts : kept ++ zeros = Digits.padded 9 nanos := by
      rw [hk, hz]
      exact List.rdropWhile_append_rtakeWhile
    have length : kept.length + zeros.length = 9 := by
      rw [← List.length_append, parts]
      exact Digits.length_padded (by decide) small
    have same : zeros = List.replicate zeros.length '0' := by
      refine List.eq_replicate_iff.mpr ⟨rfl, fun c member => ?_⟩
      rw [hz] at member
      simpa using List.mem_rtakeWhile_imp member
    have value : Digits.value kept * Digits.tenTo zeros.length = nanos := by
      have padded := Digits.value_padded 9 nanos
      rw [← parts, same, Digits.value, Nat.ofDigitChars_append, Nat.ofDigitChars_replicate_zero,
        Nat.mul_comm] at padded
      exact padded
    have filled : kept ≠ [] := by
      rintro rfl
      simp [Digits.value] at value
      omega
    have digits : ∀ c ∈ kept, c.isDigit = true := fun c member =>
      Digits.isDigit_of_mem_padded (parts ▸ List.mem_append_left zeros member)
    have written : writeFraction nanos = '.' :: kept := by
      rw [writeFraction, if_neg whole, hk]
      rfl
    have front : (kept ++ ['Z']).takeWhile Char.isDigit = kept := by
      rw [List.takeWhile_append_of_pos digits]
      simp
    have back : (kept ++ ['Z']).dropWhile Char.isDigit = ['Z'] := by
      rw [List.dropWhile_append_of_pos digits]
      rfl
    have long : 1 ≤ kept.length ∧ kept.length ≤ 9 := by
      have := List.length_pos_of_ne_nil filled
      omega
    have rest : 9 - kept.length = zeros.length := by omega
    rw [written, List.cons_append, readFraction, front, back, if_pos long, rest]
    exact congrArg (fun n => some (n, ['Z'])) value

theorem read_write {t : Timestamp} (dated : 0 ≤ t.year) : read t.write = some t := by
  obtain ⟨date, hd⟩ : ∃ date, date = Day.ofNumber (t.seconds / 86400) := ⟨_, rfl⟩
  obtain ⟨second, hs⟩ : ∃ second, second = (t.seconds % 86400).toNat := ⟨_, rfl⟩
  have last := t.year_le
  have number := Day.number_ofNumber (t.seconds / 86400)
  have exists_ := Day.exists_ofNumber (t.seconds / 86400)
  rw [year, ← hd] at dated last
  rw [← hd] at number exists_
  have bounds := Day.exists_bounds exists_
  have year : date.year.natAbs < 10000 := by omega
  have month : date.month < 100 := by omega
  have day : date.day < 100 := by omega
  have hour : second / 3600 < 100 := by omega
  have minute : second / 60 % 60 < 100 := by omega
  have moment : second % 60 < 100 := by omega
  have same : (⟨(date.year.natAbs : Int), date.month, date.day⟩ : Day) = date := by
    have : (date.year.natAbs : Int) = date.year := by omega
    rw [this]
  have instant : date.number * 86400 + ((second / 3600 * 3600 + second / 60 % 60 * 60 +
      min (second % 60) 59 : Nat) : Int) - 0 = t.seconds := by
    rw [number]
    omega
  have times : second / 3600 ≤ 23 ∧ second / 60 % 60 ≤ 59 ∧ second % 60 ≤ 60 := by omega
  have first : writeYear date.year = Digits.padded 4 date.year.natAbs :=
    if_neg (Int.not_lt.mpr dated)
  simp only [write, read, ← hd, ← hs, first, List.append_assoc, List.cons_append,
    Digits.take?_two, Digits.take?_four, Digits.after?_cons, year, month, day, hour, minute, moment,
    readFraction_write t.nanos_lt, Option.bind_eq_bind, Option.bind_some, readOffset]
  rw [same, if_pos ⟨exists_, times⟩, instant]
  exact at?_self t

end Timestamp
end Registrar
