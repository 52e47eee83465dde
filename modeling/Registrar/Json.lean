import Registrar.Binary64

/- JSON values. Members keep the order they are given in; a value that was read has them in
   ascending order of their names, each name once. -/
namespace Registrar

/-- An integer is one of 64 bits, with or without sign; other numbers are binary fractions. -/
inductive Number where
  | integer (z : Int)
  | float (x : Binary64)
  deriving DecidableEq, Repr

namespace Number

def leastInteger : Int := -9223372036854775808

/-- An integer never equals a fraction, whatever its value. -/
def same : Number → Number → Bool
  | .integer a, .integer b => a == b
  | .float a, .float b => a.same b
  | _, _ => false

end Number

inductive Json where
  | null
  | bool (b : Bool)
  | number (n : Number)
  | string (s : String)
  | array (items : List Json)
  | object (members : List (String × Json))
  deriving Repr

instance : Inhabited Json := ⟨.null⟩

namespace Json

mutual

def same : Json → Json → Bool
  | .null, .null => true
  | .bool a, .bool b => a == b
  | .number a, .number b => a.same b
  | .string a, .string b => a == b
  | .array a, .array b => sameItems a b
  | .object a, .object b => sameMembers a b
  | _, _ => false

def sameItems : List Json → List Json → Bool
  | [], [] => true
  | a :: as, b :: bs => same a b && sameItems as bs
  | _, _ => false

def sameMembers : List (String × Json) → List (String × Json) → Bool
  | [], [] => true
  | (k, a) :: as, (l, b) :: bs => k == l && same a b && sameMembers as bs
  | _, _ => false

end

def isNull : Json → Bool
  | .null => true
  | _ => false

def record (members : List (String × Option Json)) : Json :=
  .object (members.filterMap fun (name, v) => v.map fun v => (name, v))

def ofText (t : Option String) : Json := (t.map Json.string).getD .null

def natural (n : Nat) : Json := .number (.integer n)

def strings (ss : List String) : Json := .array (ss.map .string)

def putMember (name : String) (value : Json) : List (String × Json) → List (String × Json)
  | [] => [(name, value)]
  | (k, v) :: rest =>
    if name = k then (name, value) :: rest
    else if name < k then (name, value) :: (k, v) :: rest
    else (k, v) :: putMember name value rest

def member? (v : Json) (name : String) : Option Json :=
  match v with
  | .object members => members.lookup name
  | _ => none

end Json
end Registrar
