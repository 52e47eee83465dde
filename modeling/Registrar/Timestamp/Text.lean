import Registrar.Timestamp
import Registrar.Text.Digits

/- Instants as text: `2023-11-14T22:13:20.5Z`. Read with any offset, written in UTC. -/
namespace Registrar.Timestamp

/-- A sign, or the letter that stands for no offset, and the seconds east of UTC. -/
def readOffset : List Char → Option Int
  | ['Z'] => some 0
  | sign :: rest =>
    if sign = '+' ∨ sign = '-' then do
      let (hours, rest) ← Digits.take? 2 rest
      let rest ← Digits.after? ':' rest
      let (minutes, rest) ← Digits.take? 2 rest
      if rest = [] ∧ hours ≤ 25 ∧ minutes ≤ 59 then
        let east : Int := (hours * 3600 + minutes * 60 : Nat)
        some (if sign = '-' then -east else east)
      else none
    else none
  | [] => none

def readFraction : List Char → Option (Nat × List Char)
  | '.' :: rest =>
    let ds := rest.takeWhile Char.isDigit
    if 1 ≤ ds.length ∧ ds.length ≤ 9 then
      some (Digits.value ds * Digits.tenTo (9 - ds.length), rest.dropWhile Char.isDigit)
    else none
  | rest => some (0, rest)

/-- A day, a time of day and an offset. A leap second counts as the second before it. -/
def read (text : List Char) : Option Timestamp := do
  let (year, rest) ← Digits.take? 4 text
  let rest ← Digits.after? '-' rest
  let (month, rest) ← Digits.take? 2 rest
  let rest ← Digits.after? '-' rest
  let (day, rest) ← Digits.take? 2 rest
  let rest ← Digits.after? 'T' rest
  let (hour, rest) ← Digits.take? 2 rest
  let rest ← Digits.after? ':' rest
  let (minute, rest) ← Digits.take? 2 rest
  let rest ← Digits.after? ':' rest
  let (second, rest) ← Digits.take? 2 rest
  let (nanos, rest) ← readFraction rest
  let east ← readOffset rest
  let date : Day := ⟨(year : Int), month, day⟩
  if date.exists? ∧ hour ≤ 23 ∧ minute ≤ 59 ∧ second ≤ 60 then
    at? (date.number * 86400 + (hour * 3600 + minute * 60 + min second 59 : Nat) - east) nanos
  else none

def writeYear (y : Int) : List Char :=
  if y < 0 then '-' :: Digits.padded 6 y.natAbs else Digits.padded 4 y.natAbs

def writeFraction (nanos : Nat) : List Char :=
  if nanos = 0 then []
  else '.' :: ((Digits.padded 9 nanos).reverse.dropWhile (· = '0')).reverse

def write (t : Timestamp) : List Char :=
  let date := Day.ofNumber (t.seconds / 86400)
  let second := (t.seconds % 86400).toNat
  writeYear date.year ++ '-' :: Digits.padded 2 date.month ++ '-' :: Digits.padded 2 date.day ++
    'T' :: Digits.padded 2 (second / 3600) ++ ':' :: Digits.padded 2 (second / 60 % 60) ++
    ':' :: Digits.padded 2 (second % 60) ++ writeFraction t.nanos ++ ['Z']

end Registrar.Timestamp
