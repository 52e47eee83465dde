/- Instants, to the nanosecond, between the years -9999 and 9999, and their calendar in UTC. -/
namespace Registrar

structure Timestamp where
  seconds : Int
  nanos : Nat
  nanos_lt : nanos < 1000000000
  not_before : -377705023201 ≤ seconds
  not_after : seconds ≤ 253402207200
  deriving DecidableEq, Repr

namespace Timestamp

def at? (seconds : Int) (nanos : Nat) : Option Timestamp :=
  if h : nanos < 1000000000 ∧ -377705023201 ≤ seconds ∧ seconds ≤ 253402207200 then
    some ⟨seconds, nanos, h.1, h.2.1, h.2.2⟩
  else none

theorem at?_self (t : Timestamp) : at? t.seconds t.nanos = some t :=
  dif_pos ⟨t.nanos_lt, t.not_before, t.not_after⟩

end Timestamp

/-- A day of the Gregorian calendar, also before its introduction; the year 0 comes before 1. -/
structure Day where
  year : Int
  month : Nat
  day : Nat
  deriving DecidableEq, Repr

namespace Day

def leapYear (y : Int) : Bool := y % 4 = 0 && (y % 100 ≠ 0 || y % 400 = 0)

def daysInMonth (y : Int) (m : Nat) : Nat :=
  if m = 2 then (if leapYear y then 29 else 28)
  else if m = 4 ∨ m = 6 ∨ m = 9 ∨ m = 11 then 30
  else 31

def exists? (d : Day) : Bool :=
  1 ≤ d.month && d.month ≤ 12 && 1 ≤ d.day && d.day ≤ daysInMonth d.year d.month

/-- Days from 1970-01-01. Years are counted from March, so that a leap day ends one. -/
def number (d : Day) : Int :=
  let y := if d.month ≤ 2 then d.year - 1 else d.year
  let m : Int := if d.month ≤ 2 then (d.month : Int) + 9 else (d.month : Int) - 3
  365 * y + y / 4 - y / 100 + y / 400 + (153 * m + 2) / 5 + (d.day : Int) - 1 - 719468

/-- The day so many days after 1970-01-01. An era is 400 years of 146097 days. -/
def ofNumber (n : Int) : Day :=
  let z := n + 719468
  let era := z / 146097
  let inEra := z % 146097
  let y := (inEra - inEra / 1460 + inEra / 36524 - inEra / 146096) / 365
  let inYear := inEra - (365 * y + y / 4 - y / 100)
  let m := (5 * inYear + 2) / 153
  let month := if m < 10 then m + 3 else m - 9
  { year := y + era * 400 + (if month ≤ 2 then 1 else 0)
    month := month.toNat
    day := (inYear - (153 * m + 2) / 5 + 1).toNat }

end Day
end Registrar
