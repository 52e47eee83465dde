import Registrar.Json.Numeral
import Registrar.Json.Quoted

/- JSON text as it is written: members in their order, repeated or not, and as much of a text as
   there is before it goes wrong. Readers that care for the first thing wrong, and those that skip
   what they do not know, read this and not values. -/
namespace Registrar.Json

/-- A number is missing where it is too large, a string where half a pair of units stands alone.
    What stands for the name of a member need not be a string; then the text is wrong from there
    on. `closed` says that an array or object was read to its end; else the text goes wrong after
    the last item or member, or in it. `broken` stands where no value can be read. -/
inductive Document where
  | null
  | bool (b : Bool)
  | number (n : Option Number)
  | string (s : Option String)
  | array (items : List Document) (closed : Bool)
  | object (members : List (Document × Document)) (closed : Bool)
  | broken
  deriving Repr

namespace Document

def isSpace (c : Char) : Bool := c = ' ' || c = '\t' || c = '\n' || c = '\r'

def skipSpace (text : List Char) : List Char := text.dropWhile isSpace

def readString (text : List Char) : Option (Option String × List Char) :=
  (Quoted.read text).map fun (pieces, rest) => ((Quoted.text? pieces).map String.ofList, rest)

def readWord : List Char → Option (Document × List Char)
  | 'n' :: 'u' :: 'l' :: 'l' :: rest => some (.null, rest)
  | 't' :: 'r' :: 'u' :: 'e' :: rest => some (.bool true, rest)
  | 'f' :: 'a' :: 'l' :: 's' :: 'e' :: rest => some (.bool false, rest)
  | _ => none

def readScalar (text : List Char) : Document × Option (List Char) :=
  match readWord text with
  | some (v, rest) => (v, some rest)
  | none =>
    match Numeral.read text with
    | some (n, rest) => (.number n.value?, some rest)
    | none => (.broken, none)

mutual

/-- The value at the start of a text, and what follows it if it is read to its end. The number
    bounds the steps; the length of the text is enough of them. -/
def readValue : Nat → List Char → Document × Option (List Char)
  | 0, _ => (.broken, none)
  | steps + 1, text =>
    match skipSpace text with
    | [] => (.broken, none)
    | c :: rest =>
      if c = '"' then
        match readString rest with
        | some (s, rest) => (.string s, some rest)
        | none => (.broken, none)
      else if c = '[' then
        match skipSpace rest with
        | ']' :: rest => (.array [] true, some rest)
        | rest =>
          let (items, after) := readItems steps rest
          (.array items after.isSome, after)
      else if c = '{' then
        match skipSpace rest with
        | '}' :: rest => (.object [] true, some rest)
        | rest =>
          let (members, after) := readMembers steps rest
          (.object members after.isSome, after)
      else readScalar (c :: rest)

def readItems : Nat → List Char → List Document × Option (List Char)
  | 0, _ => ([], none)
  | steps + 1, text =>
    let (item, after) := readValue steps text
    match after.map skipSpace with
    | some (',' :: rest) =>
      let (items, after) := readItems steps rest
      (item :: items, after)
    | some (']' :: rest) => ([item], some rest)
    | _ => ([item], none)

def readMembers : Nat → List Char → List (Document × Document) × Option (List Char)
  | 0, _ => ([], none)
  | steps + 1, text =>
    match readValue steps text with
    | (.string name, some rest) =>
      match skipSpace rest with
      | ':' :: rest =>
        let (value, after) := readValue steps rest
        match after.map skipSpace with
        | some (',' :: rest) =>
          let (members, after) := readMembers steps rest
          ((.string name, value) :: members, after)
        | some ('}' :: rest) => ([(.string name, value)], some rest)
        | _ => ([(.string name, value)], none)
      | _ => ([(.string name, .broken)], none)
    | (d, _) => ([(d, .broken)], none)

end

def ofText (text : List Char) : Document × Bool :=
  let (v, after) := readValue (2 * text.length + 2) text
  (v, (after.map skipSpace) == some [])

def text? : Document → Option String
  | .string s => s
  | _ => none

mutual

def isSound : Document → Bool
  | .array items closed => soundItems items && closed
  | .object members closed => soundMembers members && closed
  | .broken => false
  | _ => true

def soundItems : List Document → Bool
  | [] => true
  | v :: rest => isSound v && soundItems rest

def soundMembers : List (Document × Document) → Bool
  | [] => true
  | (_, v) :: rest => isSound v && soundMembers rest

end

def greatestDepth : Nat := 127

mutual

def json? : Nat → Document → Option Json
  | _, .null => some .null
  | _, .bool b => some (.bool b)
  | _, .number n => n.map .number
  | _, .string s => s.map .string
  | depth + 1, .array items true => (jsonItems? depth items).map .array
  | depth + 1, .object members true => (jsonMembers? depth members).map .object
  | _, _ => none

def jsonItems? : Nat → List Document → Option (List Json)
  | _, [] => some []
  | depth, v :: rest => do
    let v ← json? depth v
    let rest ← jsonItems? depth rest
    some (v :: rest)

/-- Of members of one name the last counts. -/
def jsonMembers? : Nat → List (Document × Document) → Option (List (String × Json))
  | _, [] => some []
  | depth, (name, v) :: rest => do
    let name ← name.text?
    let v ← json? depth v
    let rest ← jsonMembers? depth rest
    some (if (rest.lookup name).isSome then rest else putMember name v rest)

end

end Document

mutual

def document : Json → Document
  | .null => .null
  | .bool b => .bool b
  | .number n => .number (some n)
  | .string s => .string (some s)
  | .array items => .array (documents items) true
  | .object members => .object (documentMembers members) true

def documents : List Json → List Document
  | [] => []
  | v :: rest => document v :: documents rest

def documentMembers : List (String × Json) → List (Document × Document)
  | [] => []
  | (name, v) :: rest => (.string (some name), document v) :: documentMembers rest

end

def parse? (text : List Char) : Option Json :=
  match Document.ofText text with
  | (d, true) => d.json? Document.greatestDepth
  | (_, false) => none

end Registrar.Json
