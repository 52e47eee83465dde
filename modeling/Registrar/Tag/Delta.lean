import Registrar.Tag

/- What turns one list of tags into another. -/
namespace Registrar

structure TagDelta where
  added : List Tag
  updated : List Tag
  removed : List String
  deriving DecidableEq, Repr

namespace TagDelta

def replacement? (new : List Tag) (t : Tag) : Option Tag :=
  (Tag.find? new t.key).filter fun u => !sameText t.value u.value

/-- Kept keys and removed keys stand in the order of `old`, added tags in the order of `new`. -/
def between (old new : List Tag) : TagDelta where
  added := (Tag.firsts new).filter (·.key ∉ Tag.keys old)
  updated := (Tag.firsts old).filterMap (replacement? new)
  removed := ((Tag.firsts old).filter (·.key ∉ Tag.keys new)).map Tag.key

def isEmpty (d : TagDelta) : Bool := d.added.isEmpty && d.updated.isEmpty && d.removed.isEmpty

def upserts (d : TagDelta) : List Tag := d.added ++ d.updated

end TagDelta

def sameTags (a b : List Tag) : Bool := (TagDelta.between a b).isEmpty

end Registrar
