/- Whether a repository that still holds images may be deleted, as an annotation says it. -/
namespace Registrar.ForceDelete

def annotationScope : String := "ecrsync.io/"

def annotation : String := annotationScope ++ "force-delete"

def unlessSaid : Bool := false

def yes : List String := ["1", "t", "T", "true", "TRUE", "True"]

def no : List String := ["0", "f", "F", "false", "FALSE", "False"]

def flag? (text : String) : Option Bool :=
  if text ∈ yes then some true else if text ∈ no then some false else none

/-- A missing annotation and one that is neither yes nor no leave the flag as it is unless said. -/
def ofAnnotations (annotations : List (String × String)) : Bool :=
  ((annotations.lookup annotation).bind flag?).getD unlessSaid

end Registrar.ForceDelete
