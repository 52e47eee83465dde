import Registrar.Text.Absent

/- Key and value tags. A list of tags stands for a map: the first tag of a key counts, the order
   of keys does not, and an absent value is the empty value. -/
namespace Registrar

structure Tag where
  key : String
  value : Option String
  deriving DecidableEq, Repr

namespace Tag

def bare (key : String) : Tag := ⟨key, none⟩

def keys (tags : List Tag) : List String := tags.map Tag.key

def find? (tags : List Tag) (key : String) : Option Tag := tags.find? (·.key = key)

def valueAt (tags : List Tag) (key : String) : Option String :=
  (find? tags key).map fun t => textOrEmpty t.value

/-- The tags that count: each key's first. -/
def firsts : List Tag → List Tag
  | [] => []
  | t :: rest => t :: (firsts rest).filter (·.key ≠ t.key)

theorem find?_nil (key : String) : find? [] key = none := rfl

theorem find?_cons (t : Tag) (rest : List Tag) (key : String) :
    find? (t :: rest) key = if t.key = key then some t else find? rest key := by
  by_cases h : t.key = key <;> simp [find?, h]

theorem find?_key {tags : List Tag} {key : String} {t : Tag} (h : find? tags key = some t) :
    t.key = key := by
  simpa using List.find?_some h

theorem find?_eq_none {tags : List Tag} {key : String} :
    find? tags key = none ↔ key ∉ keys tags := by
  simp only [find?, keys, List.find?_eq_none, List.mem_map, not_exists, not_and, decide_eq_true_eq]

theorem valueAt_eq_none {tags : List Tag} {key : String} :
    valueAt tags key = none ↔ key ∉ keys tags := by
  simp [valueAt, find?_eq_none]

end Tag
end Registrar
