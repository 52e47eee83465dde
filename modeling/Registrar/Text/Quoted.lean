import Registrar.Text.Digits
import Registrar.Text.Hidden

/- Text between quotes for a message: a reader of the message sees every character. -/
namespace Registrar.Text

def hexDigits (n : Nat) : List Char := Nat.toDigits 16 n

def escapeByCode (c : Char) : List Char := ['\\', 'u', '\x7b'] ++ hexDigits c.toNat ++ ['\x7d']

/-- A zero, a tab and the line breaks have short forms; the backslash and the quote stand for
    themselves after a backslash; what is hidden is given by its code. -/
def shown (c : Char) : List Char :=
  if c.toNat = 0 then ['\\', '0']
  else if c = '\t' then ['\\', 't']
  else if c = '\r' then ['\\', 'r']
  else if c = '\n' then ['\\', 'n']
  else if c = '\\' then ['\\', '\\']
  else if c = '"' then ['\\', '"']
  else if isHidden c then escapeByCode c
  else [c]

def quoted (s : String) : String := String.ofList ('"' :: s.toList.flatMap shown ++ ['"'])

end Registrar.Text
