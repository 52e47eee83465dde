import Registrar.Json.Document
import Registrar.Text.Absent

/- Policy documents. The remote keeps them as text and may lay the text out anew. -/
namespace Registrar

def sameDocument (a b : String) : Bool :=
  match Json.parse? a.toList, Json.parse? b.toList with
  | some v, some w => v.same w
  | _, _ => false

/-- Policies are the same as texts, absent and empty alike, or as documents. -/
def samePolicy (a b : Option String) : Bool :=
  sameText a b ||
    match a, b with
    | some a, some b => sameDocument a b
    | _, _ => false

end Registrar
