import Registrar.Json.Fault

/- Reading documents as typed values. Of several faults the one that stands first in the document
   is reported; what is missing counts as standing after everything else. -/
namespace Registrar.Reading

open Json (Document Fault)

/-- Where a document comes from: from a text as it is being read, or from a value that was read
    whole before. -/
inductive Origin where
  | text
  | value
  deriving DecidableEq, Repr

inductive Placed (α : Type) where
  | ok (a : α)
  | fault (place : Nat) (f : Fault)

namespace Placed

def ofExcept (place : Nat) : Except Fault α → Placed α
  | .ok a => .ok a
  | .error f => .fault place f

def toExcept : Placed α → Except Fault α
  | .ok a => .ok a
  | .fault _ f => .error f

def map (f : α → β) : Placed α → Placed β
  | .ok a => .ok (f a)
  | .fault place e => .fault place e

/-- Both readings, or the fault of the earlier place. -/
def ap : Placed (α → β) → Placed α → Placed β
  | .ok f, .ok a => .ok (f a)
  | .fault place e, .ok _ => .fault place e
  | .ok _, .fault place e => .fault place e
  | .fault place e, .fault place' e' => if place' < place then .fault place' e' else .fault place e

instance : Applicative Placed where
  pure := .ok
  map := map
  seq f a := f.ap (a ())

end Placed

def string : Document → Except Fault String
  | .string (some s) => .ok s
  | d => .error (d.mismatch "a string")

def boolean : Document → Except Fault Bool
  | .bool b => .ok b
  | d => .error (d.mismatch "a boolean")

def natural (bound : Nat) (expected : String) : Document → Except Fault Nat
  | .number (some (.integer z)) =>
    if 0 ≤ z ∧ z < bound then .ok z.toNat
    else .error (.shape (.invalidValue (.number (.integer z)) expected))
  | d => .error (d.mismatch expected)

def nullable (read : Document → Except Fault α) : Document → Except Fault (Option α)
  | .null => .ok none
  | d => (read d).map some

def sequence (read : Document → Except Fault α) : Document → Except Fault (List α)
  | .array items closed => do
    let values ← items.mapM read
    if closed then .ok values else .error .grammar
  | d => .error (d.mismatch "a sequence")

def mapping (read : Document → Except Fault α) : Document → Except Fault (List (String × α))
  | .object members closed => do
    let entries ← members.mapM fun (name, d) =>
      match name.text? with
      | some name => (read d).map fun a => (name, a)
      | none => .error .grammar
    if closed then .ok entries else .error .grammar
  | d => .error (d.mismatch "a map")

/-- The members of a record, a name missing where none can be read. Items of an array are members
    of the fields in their order. -/
structure Record where
  title : String
  fields : List String
  named : Bool
  members : List (Option String × Document)

namespace Record

def memberFrom (name : String) : Nat → List (Option String × Document) → Option (Nat × Document)
  | _, [] => none
  | i, (n, d) :: rest => if n = some name then some (i, d) else memberFrom name (i + 1) rest

def member? (r : Record) (name : String) : Option (Nat × Document) := memberFrom name 0 r.members

def missing (r : Record) (name : String) : Placed α :=
  let i := r.fields.idxOf name
  .fault (r.members.length + 1 + i)
    (.shape (if r.named then .missingField name else .tooShort i r.title r.fields.length))

def required (r : Record) (name : String) (read : Document → Except Fault α) : Placed α :=
  match r.member? name with
  | some (i, d) => .ofExcept i (read d)
  | none => r.missing name

def defaulted (r : Record) (name : String) (unset : α) (read : Document → Except Fault α) :
    Placed α :=
  match r.member? name with
  | some (i, d) => .ofExcept i (read d)
  | none => .ok unset

def optional (r : Record) (name : String) (read : Document → Except Fault α) :
    Placed (Option α) :=
  r.defaulted name none (nullable read)

/-- Faults of the members apart from the values of the fields: a field that comes again, an
    unknown one whose value breaks the grammar, a name that is no text. -/
def checkMembers (fields : List String) : Nat → List String → List (Option String × Document) →
    Bool → Placed Unit
  | i, _, [], closed => if closed then .ok () else .fault i .grammar
  | i, _, (none, _) :: _, _ => .fault i .grammar
  | i, seen, (some n, d) :: rest, closed =>
    if n ∈ fields then
      if n ∈ seen then .fault i (.shape (.duplicateField n))
      else checkMembers fields (i + 1) (n :: seen) rest closed
    else if d.isSound then checkMembers fields (i + 1) seen rest closed
    else .fault i .grammar

def checkItems (origin : Origin) (fields : List String) (items : List Document) (closed : Bool) :
    Placed Unit :=
  if fields.length < items.length then
    .fault fields.length (match origin with
      | .text => .grammar
      | .value => .shape (.tooLong items.length))
  else if closed then .ok () else .fault items.length .grammar

def read (origin : Origin) (title : String) (fields : List String) (build : Record → Placed α) :
    Document → Except Fault α
  | .object members closed =>
    let members := members.map fun (name, d) => (name.text?, d)
    (Placed.ap (.map (fun _ a => a) (checkMembers fields 0 [] members closed))
      (build ⟨title, fields, true, members⟩)).toExcept
  | .array items closed =>
    (Placed.ap (.map (fun _ a => a) (checkItems origin fields items closed))
      (build ⟨title, fields, false, (fields.map some).zip items⟩)).toExcept
  | d => .error (d.mismatch ("struct " ++ title))

end Record

/-- One of a few words. An object may say it too, as the name of its only member, which is null. -/
def word (origin : Origin) (all : List α) (name : α → String) : Document → Except Fault α
  | .string (some s) => choose s
  | .object members closed =>
    match origin, members with
    | .text, (.string (some s), d) :: rest => do
      let a ← choose s
      nothing d
      if rest.isEmpty && closed then .ok a else .error .grammar
    | .text, (d, _) :: _ => .error (d.mismatch "variant identifier")
    | .text, [] => .error .grammar
    | .value, [(.string (some s), d)] => do
      let a ← choose s
      nothing d
      .ok a
    | .value, _ => .error (.shape (.invalidValue .map "map with a single key"))
  | d =>
    match origin with
    | .text => .error .grammar
    | .value => .error (d.mismatch "string or map")
where
  choose (s : String) : Except Fault α :=
    match all.find? (name · == s) with
    | some a => .ok a
    | none => .error (.shape (.unknownVariant s (all.map name)))
  nothing : Document → Except Fault Unit
    | .null => .ok ()
    | d => .error (d.mismatch "unit")

end Registrar.Reading
