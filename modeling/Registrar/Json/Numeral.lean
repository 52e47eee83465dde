import Registrar.Json
import Registrar.Text.Digits

/- Numbers as JSON text writes them, and which number each of them is. -/
namespace Registrar.Json

structure Numeral where
  negative : Bool
  whole : List Char
  fraction : Option (List Char)
  exponent : Option (Bool × List Char)
  deriving DecidableEq, Repr

namespace Numeral

def readWhole (text : List Char) : Option (List Char × List Char) :=
  let ds := text.takeWhile Char.isDigit
  if ds = [] ∨ (ds.head? = some '0' ∧ 1 < ds.length) then none
  else some (ds, text.dropWhile Char.isDigit)

def readDigits (text : List Char) : Option (List Char × List Char) :=
  let ds := text.takeWhile Char.isDigit
  if ds = [] then none else some (ds, text.dropWhile Char.isDigit)

def readFraction : List Char → Option (Option (List Char) × List Char)
  | [] => some (none, [])
  | c :: rest =>
    if c = '.' then (readDigits rest).map fun (ds, rest) => (some ds, rest)
    else some (none, c :: rest)

def readSign : List Char → Bool × List Char
  | [] => (false, [])
  | c :: rest =>
    if c = '-' then (true, rest) else if c = '+' then (false, rest) else (false, c :: rest)

def readExponent : List Char → Option (Option (Bool × List Char) × List Char)
  | [] => some (none, [])
  | c :: rest =>
    if c = 'e' ∨ c = 'E' then
      let (negative, rest) := readSign rest
      (readDigits rest).map fun (ds, rest) => (some (negative, ds), rest)
    else some (none, c :: rest)

def read (text : List Char) : Option (Numeral × List Char) := do
  let negative := text.head? = some '-'
  let (whole, rest) ← readWhole (if negative then text.drop 1 else text)
  let (fraction, rest) ← readFraction rest
  let (exponent, rest) ← readExponent rest
  some (⟨negative, whole, fraction, exponent⟩, rest)

/-- Appends digits to `m` while the result has 64 bits, and counts those appended. The first digit
    that does not fit ends this, also if a later one would. -/
def gather : Nat → List Char → Nat × Nat
  | m, [] => (m, 0)
  | m, c :: rest =>
    let next := m * 10 + (c.toNat - '0'.toNat)
    if next < UInt64.size then
      let (whole, count) := gather next rest
      (whole, count + 1)
    else (m, 0)

def exponentValue (n : Numeral) : Int :=
  match n.exponent with
  | none => 0
  | some (negative, ds) => if negative then -(Digits.value ds : Int) else Digits.value ds

def signed (n : Numeral) (x : Binary64) : Number := .float (if n.negative then x.neg else x)

/-- The number that a numeral stands for; none if it is too large. Digits of the whole part that
    do not fit only scale; digits of the fraction that do not fit are dropped. -/
def value? (n : Numeral) : Option Number :=
  let (m, count) := gather 0 n.whole
  let dropped := n.whole.length - count
  match n.fraction, n.exponent with
  | none, none =>
    if dropped = 0 then
      if n.negative then
        if m ≠ 0 ∧ Number.leastInteger ≤ -(m : Int) then some (.integer (-(m : Int)))
        else (Binary64.ofNat? m).map n.signed
      else some (.integer m)
    else (Binary64.ofScaled? m dropped).map n.signed
  | _, _ =>
    let (m, places) := gather m (n.fraction.getD [])
    (Binary64.ofScaled? m ((dropped : Int) - places + n.exponentValue)).map n.signed

end Numeral
end Registrar.Json
