import Registrar.Proofs.Rendering

/- What the printers write renders the value, on one line and on lines of its own. -/
namespace Registrar.Json

mutual

/-- A value that nests no deeper than that, names no member of an object twice and has no numbers but
    integers that fit. -/
def Plain : Nat → Json → Prop
  | _, .null => True
  | _, .bool _ => True
  | _, .number (.integer z) => Number.Fits z
  | _, .number (.float _) => False
  | _, .string _ => True
  | 0, .array _ => False
  | depth + 1, .array items => PlainItems depth items
  | 0, .object _ => False
  | depth + 1, .object members => (members.map Prod.fst).Nodup ∧ PlainMembers depth members

def PlainItems : Nat → List Json → Prop
  | _, [] => True
  | depth, v :: rest => Plain depth v ∧ PlainItems depth rest

def PlainMembers : Nat → List (String × Json) → Prop
  | _, [] => True
  | depth, (_, v) :: rest => Plain depth v ∧ PlainMembers depth rest

end

theorem plainItems_iff {depth : Nat} {items : List Json} :
    PlainItems depth items ↔ ∀ v ∈ items, Plain depth v := by
  induction items with
  | nil => simp [PlainItems]
  | cons v rest ih => simp [PlainItems, ih]

theorem plainMembers_iff {depth : Nat} {members : List (String × Json)} :
    PlainMembers depth members ↔ ∀ entry ∈ members, Plain depth entry.2 := by
  induction members with
  | nil => simp [PlainMembers]
  | cons entry rest ih => simp [PlainMembers, ih]

theorem space_nil : Space [] := fun _ member => absurd member List.not_mem_nil

theorem space_indented (depth : Nat) : Space (indented depth) := by
  intro c member
  rcases List.mem_cons.mp member with rfl | member
  · decide
  · rw [List.eq_of_mem_replicate member]
    decide

theorem space_one : Space [' '] := by
  intro c member
  rw [List.mem_singleton.mp member]
  decide

mutual

theorem renders_render {depth : Nat} (v : Json) (plain : Plain depth v) : Renders v v.render := by
  cases v with
  | null => exact .null
  | bool b => cases b <;> constructor
  | number n =>
    cases n with
    | integer z => exact .integer plain
    | float x => cases plain
  | string s => exact .string (Quoted.spells_write s)
  | array items =>
    cases depth with
    | zero => cases plain
    | succ depth =>
      cases items with
      | nil => exact .emptyArray space_nil
      | cons v rest =>
        have inner := renders_renderItems (v :: rest) plain (List.cons_ne_nil v rest)
        simpa [render, renderItems] using Renders.array inner
  | object members =>
    cases depth with
    | zero => cases plain
    | succ depth =>
      match members with
      | [] => exact .emptyObject space_nil
      | (name, v) :: rest =>
        have inner := renders_renderMembers ((name, v) :: rest) plain.2 (List.cons_ne_nil _ rest)
        simpa [render, renderMembers] using Renders.object inner

theorem renders_renderItems {depth : Nat} (items : List Json) (plain : PlainItems depth items)
    (some : items ≠ []) : RendersItems items (renderItems items).tail := by
  match items with
  | [v] =>
    simpa [renderItems] using RendersItems.last space_nil (renders_render v plain.1) space_nil
  | v :: u :: rest =>
    have others := renders_renderItems (u :: rest) plain.2 (List.cons_ne_nil u rest)
    simpa [renderItems] using RendersItems.more space_nil (renders_render v plain.1) space_nil others

theorem renders_renderMembers {depth : Nat} (members : List (String × Json))
    (plain : PlainMembers depth members) (some : members ≠ []) :
    RendersMembers members (renderMembers members).tail := by
  match members with
  | [(name, v)] =>
    simpa [renderMembers, Quoted.write] using RendersMembers.last space_nil (Quoted.spells_write name)
      space_nil space_nil (renders_render v plain.1) space_nil
  | (name, v) :: u :: rest =>
    have others := renders_renderMembers (u :: rest) plain.2 (List.cons_ne_nil u rest)
    simpa [renderMembers, Quoted.write] using RendersMembers.more space_nil (Quoted.spells_write name)
      space_nil space_nil (renders_render v plain.1) space_nil others

end

mutual

theorem renders_renderLines {depth : Nat} (level : Nat) (v : Json) (plain : Plain depth v) :
    Renders v (v.renderLines level) := by
  cases v with
  | null => exact .null
  | bool b => cases b <;> constructor
  | number n =>
    cases n with
    | integer z => exact .integer plain
    | float x => cases plain
  | string s => exact .string (Quoted.spells_write s)
  | array items =>
    cases depth with
    | zero => cases plain
    | succ depth =>
      cases items with
      | nil => exact .emptyArray space_nil
      | cons v rest =>
        have inner := renders_itemLines (level + 1) (v :: rest) plain (List.cons_ne_nil v rest)
          (space_indented level)
        simpa [renderLines, itemLines] using Renders.array inner
  | object members =>
    cases depth with
    | zero => cases plain
    | succ depth =>
      match members with
      | [] => exact .emptyObject space_nil
      | (name, v) :: rest =>
        have inner := renders_memberLines (level + 1) ((name, v) :: rest) plain.2
          (List.cons_ne_nil _ rest) (space_indented level)
        simpa [renderLines, memberLines] using Renders.object inner

theorem renders_itemLines {depth : Nat} (level : Nat) (items : List Json)
    (plain : PlainItems depth items) (some : items ≠ []) {w : List Char} (after : Space w) :
    RendersItems items ((itemLines level items).tail ++ w) := by
  match items with
  | [v] =>
    simpa [itemLines] using
      RendersItems.last (space_indented level) (renders_renderLines level v plain.1) after
  | v :: u :: rest =>
    have others := renders_itemLines level (u :: rest) plain.2 (List.cons_ne_nil u rest) after
    simpa [itemLines] using RendersItems.more (space_indented level)
      (renders_renderLines level v plain.1) space_nil others

theorem renders_memberLines {depth : Nat} (level : Nat) (members : List (String × Json))
    (plain : PlainMembers depth members) (some : members ≠ []) {w : List Char} (after : Space w) :
    RendersMembers members ((memberLines level members).tail ++ w) := by
  match members with
  | [(name, v)] =>
    simpa [memberLines, Quoted.write] using RendersMembers.last (space_indented level)
      (Quoted.spells_write name) space_nil space_one (renders_renderLines level v plain.1) after
  | (name, v) :: u :: rest =>
    have others := renders_memberLines level (u :: rest) plain.2 (List.cons_ne_nil u rest) after
    simpa [memberLines, Quoted.write] using RendersMembers.more (space_indented level)
      (Quoted.spells_write name) space_nil space_one (renders_renderLines level v plain.1) space_nil
      others

end

end Registrar.Json
