import Registrar.Text.Digits

/- Strings as JSON text writes them, without the opening quote. -/
namespace Registrar.Json.Quoted

/-- What one character or one escape of a string stands for: a character, or one half of a pair of
    16-bit units. -/
inductive Piece where
  | char (c : Char)
  | half (unit : Nat)
  deriving DecidableEq, Repr

def hexValue? (c : Char) : Option Nat :=
  if c.isDigit then some (c.toNat - '0'.toNat)
  else if 'a' ≤ c ∧ c ≤ 'f' then some (c.toNat - 'a'.toNat + 10)
  else if 'A' ≤ c ∧ c ≤ 'F' then some (c.toNat - 'A'.toNat + 10)
  else none

def unit? (a b c d : Char) : Option Nat := do
  let a ← hexValue? a
  let b ← hexValue? b
  let c ← hexValue? c
  let d ← hexValue? d
  some (((a * 16 + b) * 16 + c) * 16 + d)

def isLeading (unit : Nat) : Bool := 0xd800 ≤ unit && unit < 0xdc00

def isTrailing (unit : Nat) : Bool := 0xdc00 ≤ unit && unit < 0xe000

def ofUnit (unit : Nat) : Piece :=
  if isLeading unit || isTrailing unit then .half unit else .char (Char.ofNat unit)

def shortEscape? (c : Char) : Option Char :=
  if c = '"' ∨ c = '\\' ∨ c = '/' then some c
  else if c = 'b' then some '\x08'
  else if c = 'f' then some '\x0c'
  else if c = 'n' then some '\n'
  else if c = 'r' then some '\r'
  else if c = 't' then some '\t'
  else none

def read : List Char → Option (List Piece × List Char)
  | [] => none
  | c :: rest =>
    if c = '"' then some ([], rest)
    else if c = '\\' then
      match rest with
      | 'u' :: h :: i :: j :: k :: rest => do
        let unit ← unit? h i j k
        let (pieces, rest) ← read rest
        some (ofUnit unit :: pieces, rest)
      | e :: rest => do
        let c ← shortEscape? e
        let (pieces, rest) ← read rest
        some (.char c :: pieces, rest)
      | [] => none
    else if c.toNat < 0x20 then none
    else do
      let (pieces, rest) ← read rest
      some (.char c :: pieces, rest)

/-- The text of the pieces: a leading half and the trailing half right after it make a character,
    and no half stands alone. -/
def text? : List Piece → Option (List Char)
  | [] => some []
  | .char c :: rest => (text? rest).map (c :: ·)
  | .half high :: .half low :: rest =>
    if isLeading high && isTrailing low then
      (text? rest).map (Char.ofNat (0x10000 + (high - 0xd800) * 0x400 + (low - 0xdc00)) :: ·)
    else none
  | .half _ :: _ => none

def writeChar (c : Char) : List Char :=
  if c = '"' then ['\\', '"']
  else if c = '\\' then ['\\', '\\']
  else if c = '\x08' then ['\\', 'b']
  else if c = '\x0c' then ['\\', 'f']
  else if c = '\n' then ['\\', 'n']
  else if c = '\r' then ['\\', 'r']
  else if c = '\t' then ['\\', 't']
  else if c.toNat < 0x20 then
    ['\\', 'u', '0', '0', Nat.digitChar (c.toNat / 16), Nat.digitChar (c.toNat % 16)]
  else [c]

def write (s : String) : List Char := '"' :: s.toList.flatMap writeChar ++ ['"']

end Registrar.Json.Quoted
