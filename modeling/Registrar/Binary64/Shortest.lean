import Registrar.Binary64
import Registrar.Text.Digits

/- The fewest decimal digits that read back as the same number, and the nearest of those. -/
namespace Registrar.Binary64

structure Decimal where
  digits : Nat
  scale : Int
  deriving DecidableEq, Repr

def leadingPlace (n d : Nat) : Int :=
  if d ≤ n then ((Digits.ofNat (n / d)).length : Int) - 1
  else -((Digits.ofNat ((d - 1) / n)).length : Int)

/-- The stretch of reals that round to a number, in quarter units: below and above its value. -/
def reach (x : Binary64) : Nat × Nat :=
  (if x.significand = twoTo 52 ∧ 0 < x.exponent then twoTo x.exponent else 2 * twoTo x.exponent,
    2 * twoTo x.exponent)

/-- Whether `d * 10 ^ k` rounds to `x`. The ends of the stretch do so if the significand is even. -/
def readsBack (x : Binary64) (c : Decimal) : Bool :=
  let up := if c.scale < 0 then Digits.tenTo c.scale.natAbs else 1
  let decimal := 4 * one * c.digits * (if c.scale < 0 then 1 else Digits.tenTo c.scale.natAbs)
  let value := 4 * x.units * up
  let below := x.reach.1 * up
  let above := x.reach.2 * up
  if x.significand % 2 = 0 then
    decide (value ≤ decimal + below) && decide (decimal ≤ value + above)
  else decide (value < decimal + below) && decide (decimal < value + above)

def neighbours (x : Binary64) (k : Int) : List Decimal :=
  let n := if k < 0 then x.units * Digits.tenTo k.natAbs else x.units
  let d := if k < 0 then one else one * Digits.tenTo k.natAbs
  let low : Decimal := ⟨n / d, k⟩
  let high : Decimal := ⟨n / d + 1, k⟩
  if roundHalfEven n d = n / d then [low, high] else [high, low]

def shortestFrom (x : Binary64) (place : Int) (count : Nat) : Nat → Decimal
  | 0 => ⟨0, 0⟩
  | tries + 1 =>
    match (neighbours x (place - (count - 1 : Nat))).find? (readsBack x) with
    | some c => c
    | none => shortestFrom x place (count + 1) tries

def shortest (x : Binary64) : Decimal :=
  if x.significand = 0 then ⟨0, 0⟩ else shortestFrom x (leadingPlace x.units one) 1 17

structure Style where
  leastPlace : Int
  greatestPlace : Int

/-- Up to four zeros may follow the point before the first digit, and up to sixteen digits may
    stand before it; beyond, an exponent follows, always with its sign. -/
def plain : Style := ⟨-5, 15⟩

def zeros (n : Nat) : List Char := List.replicate n '0'

def layOut (style : Style) (ds : List Char) (place : Int) : List Char :=
  if style.leastPlace ≤ place ∧ place ≤ style.greatestPlace then
    if place < 0 then '0' :: '.' :: (zeros (place.natAbs - 1) ++ ds)
    else
      let whole := place.natAbs + 1
      if ds.length ≤ whole then ds ++ zeros (whole - ds.length) ++ ['.', '0']
      else ds.take whole ++ '.' :: ds.drop whole
  else
    let sign := if place < 0 then '-' else '+'
    let rest := ds.drop 1
    ds.take 1 ++ (if rest = [] then [] else '.' :: rest) ++
      'e' :: sign :: Digits.ofNat place.natAbs

def render (x : Binary64) : List Char :=
  let c := x.shortest
  let ds := (Digits.ofNat c.digits).reverse.dropWhile (· = '0') |>.reverse
  let place := c.scale + ((Digits.ofNat c.digits).length : Int) - 1
  (if x.negative then ['-'] else []) ++
    (if x.significand = 0 then ['0', '.', '0'] else layOut plain ds place)

end Registrar.Binary64
