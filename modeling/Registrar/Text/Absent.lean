/- Optional text. An absent text and the empty text say the same thing. -/
namespace Registrar

def textOrEmpty (t : Option String) : String := t.getD ""

def sameText (a b : Option String) : Bool := textOrEmpty a == textOrEmpty b

def nonEmptyText (t : Option String) : Option String := t.filter (· ≠ "")

theorem sameText_iff (a b : Option String) : sameText a b = true ↔ textOrEmpty a = textOrEmpty b := by
  simp [sameText]

theorem nonEmptyText_eq_none (t : Option String) : nonEmptyText t = none ↔ textOrEmpty t = "" := by
  cases t <;> simp [nonEmptyText, textOrEmpty]

end Registrar
