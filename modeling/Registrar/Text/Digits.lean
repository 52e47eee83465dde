/- Decimal digits. -/
namespace Registrar.Digits

def value (ds : List Char) : Nat := Nat.ofDigitChars 10 ds 0

def tenTo (k : Nat) : Nat := Nat.pow 10 k

def ofNat (n : Nat) : List Char := Nat.toDigits 10 n

def text (n : Nat) : String := String.ofList (ofNat n)

def padded (width n : Nat) : List Char :=
  List.replicate (width - (ofNat n).length) '0' ++ ofNat n

def ofInt (z : Int) : List Char := if z < 0 then '-' :: ofNat z.natAbs else ofNat z.natAbs

def take? (width : Nat) (text : List Char) : Option (Nat × List Char) :=
  let ds := text.take width
  if ds.length = width ∧ ds.all Char.isDigit then some (value ds, text.drop width) else none

def after? (c : Char) : List Char → Option (List Char)
  | [] => none
  | d :: rest => if d = c then some rest else none

theorem value_ofNat (n : Nat) : value (ofNat n) = n :=
  Nat.ofDigitChars_toDigits (by decide) (by decide)

theorem isDigit_of_mem_ofNat {n : Nat} {c : Char} (h : c ∈ ofNat n) : c.isDigit = true :=
  Nat.isDigit_of_mem_toDigits (by decide) (by decide) h

end Registrar.Digits
