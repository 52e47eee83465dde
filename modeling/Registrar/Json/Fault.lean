import Registrar.Json.Document
import Registrar.Binary64.Shortest
import Registrar.Text.Quoted

/- What can be wrong with JSON that is read as something else than a plain value. -/
namespace Registrar.Json

inductive Found where
  | null
  | bool (b : Bool)
  | number (n : Number)
  | string (s : String)
  | sequence
  | map
  deriving DecidableEq, Repr

def Found.text : Found → String
  | .null => "null"
  | .bool b => if b then "boolean `true`" else "boolean `false`"
  | .number (.integer z) => "integer `" ++ String.ofList (Digits.ofInt z) ++ "`"
  | .number (.float x) => "floating point `" ++ String.ofList x.render ++ "`"
  | .string s => "string " ++ Text.quoted s
  | .sequence => "sequence"
  | .map => "map"

inductive Mismatch where
  | missingField (name : String)
  | duplicateField (name : String)
  | unknownVariant (name : String) (known : List String)
  | invalidType (found : Found) (expected : String)
  | invalidValue (found : Found) (expected : String)
  | tooShort (length : Nat) (record : String) (fields : Nat)
  | tooLong (length : Nat)
  deriving DecidableEq, Repr

def Mismatch.message : Mismatch → String
  | .missingField name => "missing field `" ++ name ++ "`"
  | .duplicateField name => "duplicate field `" ++ name ++ "`"
  | .unknownVariant name known =>
    "unknown variant `" ++ name ++ "`, expected " ++
      String.intercalate " or " (known.map fun k => "`" ++ k ++ "`")
  | .invalidType found expected => "invalid type: " ++ found.text ++ ", expected " ++ expected
  | .invalidValue found expected => "invalid value: " ++ found.text ++ ", expected " ++ expected
  | .tooShort length record fields =>
    "invalid length " ++ Digits.text length ++ ", expected struct " ++ record ++ " with " ++
      Digits.text fields ++ " elements"
  | .tooLong length => "invalid length " ++ Digits.text length ++ ", expected fewer elements in array"

inductive Fault where
  | grammar
  | shape (m : Mismatch)
  | instant
  deriving DecidableEq, Repr

def Document.found : Document → Except Fault Found
  | .null => .ok .null
  | .bool b => .ok (.bool b)
  | .number (some n) => .ok (.number n)
  | .string (some s) => .ok (.string s)
  | .array _ _ => .ok .sequence
  | .object _ _ => .ok .map
  | _ => .error .grammar

def Document.mismatch (d : Document) (expected : String) : Fault :=
  match d.found with
  | .ok found => .shape (.invalidType found expected)
  | .error fault => fault

end Registrar.Json
