import Registrar.Text.Digits

/- Finite binary floating-point numbers of 53 significant bits, kept exactly. A magnitude counts
   units of 2 ^ -1074, the smallest step, so that every magnitude is a natural number. Infinities
   and not-a-number do not occur: an operation whose result is too large has no result. -/
namespace Registrar

structure Binary64 where
  negative : Bool
  significand : Nat
  exponent : Nat
  deriving DecidableEq, Repr

namespace Binary64

def twoTo (k : Nat) : Nat := Nat.pow 2 k

def one : Nat := twoTo 1074

def greatestExponent : Nat := 2045

def units (x : Binary64) : Nat := x.significand * twoTo x.exponent

def zero (negative : Bool) : Binary64 := ⟨negative, 0, 0⟩

def neg (x : Binary64) : Binary64 := { x with negative := !x.negative }

/-- The natural number nearest to `n / d`, a half going to the even one. -/
def roundHalfEven (n d : Nat) : Nat :=
  if 2 * (n % d) < d ∨ (2 * (n % d) = d ∧ n / d % 2 = 0) then n / d else n / d + 1

def ofUnits? (negative : Bool) (n d : Nat) : Option Binary64 :=
  let e := Nat.log2 (n / d) - 52
  let m := roundHalfEven n (d * twoTo e)
  let x : Binary64 := if m = twoTo 53 then ⟨negative, twoTo 52, e + 1⟩ else ⟨negative, m, e⟩
  if x.exponent ≤ greatestExponent then some x else none

def ofNat? (n : Nat) : Option Binary64 := ofUnits? false (n * one) 1

def mul? (x y : Binary64) : Option Binary64 :=
  ofUnits? (x.negative != y.negative) (x.units * y.units) one

def div? (x y : Binary64) : Option Binary64 :=
  if y.units = 0 then none
  else ofUnits? (x.negative != y.negative) (x.units * one) y.units

/-- Numbers are compared by value: the two zeros are one. -/
def same (x y : Binary64) : Bool :=
  x.units == y.units && (x.negative == y.negative || x.units == 0)

def floor (x : Binary64) : Int :=
  if x.negative then -((x.units + (one - 1)) / one : Nat) else (x.units / one : Nat)

def aboveFloor (x : Binary64) : Nat :=
  if x.negative then (one - x.units % one) % one else x.units % one

def greatestPower : Nat := 308

def divTens? (x : Binary64) (k : Nat) : Option Binary64 := (ofNat? (Digits.tenTo k)).bind (div? x)

def mulTens? (x : Binary64) (k : Nat) : Option Binary64 := (ofNat? (Digits.tenTo k)).bind (mul? x)

/-- `x / 10 ^ k` in quotients by at most the greatest power of ten. From a number of 64 bits three
    of these reach zero, so no more are taken. -/
def scaleDown : Nat → Binary64 → Nat → Option Binary64
  | 0, x, _ => some x
  | steps + 1, x, k =>
    if k ≤ greatestPower then divTens? x k
    else (divTens? x greatestPower).bind fun y => scaleDown steps y (k - greatestPower)

/-- `m * 10 ^ e` as decimal text is read, for `m` of 64 bits: `m` becomes a number of 53 bits
    first, then a product or quotients with powers of ten follow, each rounded. The result may be
    a neighbour of the nearest number. -/
def ofScaled? (m : Nat) (e : Int) : Option Binary64 :=
  (ofNat? m).bind fun x =>
    if e < 0 then scaleDown 3 x e.natAbs
    else if e.natAbs ≤ greatestPower then mulTens? x e.natAbs
    else if m = 0 then some x
    else none

theorem same_refl (x : Binary64) : same x x = true := by simp [same]

theorem same_symm {x y : Binary64} (h : same x y = true) : same y x = true := by
  simp only [same, Bool.and_eq_true, Bool.or_eq_true, beq_iff_eq] at *
  exact ⟨h.1.symm, h.2.imp Eq.symm h.1.symm.trans⟩

theorem same_trans {x y z : Binary64} (h : same x y = true) (k : same y z = true) :
    same x z = true := by
  simp only [same, Bool.and_eq_true, Bool.or_eq_true, beq_iff_eq] at *
  refine ⟨h.1.trans k.1, ?_⟩
  rcases h.2 with e | e
  · rcases k.2 with e' | e'
    · exact .inl (e.trans e')
    · exact .inr (h.1.trans e')
  · exact .inr e

end Binary64
end Registrar
