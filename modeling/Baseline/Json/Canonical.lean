import Baseline.Json.Basic
import Baseline.Json.Quoted

/-!
# Canonical text

Values that differ only in the order of object members have one canonical text:
members are sorted by name at every depth, every item and member stands on a
line of its own, and each level is indented by a fixed number of spaces.
-/

namespace Baseline
namespace Json

/-- Member names are compared character by character, by code point. -/
def nameLe (left right : String × Json) : Bool :=
  decide (left.1 ≤ right.1)

mutual

/-- The value with the members of every object sorted by name. -/
def sortMembers : Json → Json
  | .null => .null
  | .bool value => .bool value
  | .int value => .int value
  | .float token => .float token
  | .string text => .string text
  | .array items => .array (sortMembersList items)
  | .object members => .object ((sortMembersPairs members).mergeSort nameLe)

/-- Each item with its members sorted. -/
def sortMembersList : List Json → List Json
  | [] => []
  | item :: rest => sortMembers item :: sortMembersList rest

/-- Each member value with its members sorted. -/
def sortMembersPairs : List (String × Json) → List (String × Json)
  | [] => []
  | (name, value) :: rest => (name, sortMembers value) :: sortMembersPairs rest

end

/-- A line feed and the indentation of a nesting level, followed by a text. -/
def newLine (indent level : Nat) (after : List Char) : List Char :=
  '\n' :: List.replicate (indent * level) ' ' ++ after

/-- A comma before a text, if there is more of a list to come. -/
def commaIfMore {α : Type} (rest : List α) (after : List Char) : List Char :=
  if rest.isEmpty then after else ',' :: after

/-- A closing bracket followed by a text; it stands on a line of its own, unless it
closes an empty list. -/
def close
    {α : Type}
    (bracket : Char)
    (indent level : Nat)
    (list : List α)
    (after : List Char) :
    List Char :=
  if list.isEmpty then bracket :: after else newLine indent level (bracket :: after)

mutual

/-- The text of a value at a nesting level, members in the order they have,
followed by another text. -/
def layout (indent level : Nat) (value : Json) (after : List Char) : List Char :=
  match value with
  | .null => "null".toList ++ after
  | .bool true => "true".toList ++ after
  | .bool false => "false".toList ++ after
  | .int value => (toString value).toList ++ after
  | .float token => token.toList ++ after
  | .string text => quote text ++ after
  | .array items =>
      '[' :: layoutItems indent (level + 1) items (close ']' indent level items after)
  | .object members =>
      '{' :: layoutMembers indent (level + 1) members (close '}' indent level members after)

/-- The texts of items, each on lines of its own, with commas between them,
followed by another text. -/
def layoutItems (indent level : Nat) (items : List Json) (after : List Char) : List Char :=
  match items with
  | [] => after
  | item :: rest =>
      newLine indent level
        (layout indent level item (commaIfMore rest (layoutItems indent level rest after)))

/-- The texts of members, each with its name, a colon and a space before the
value, on lines of their own, with commas between them, followed by another
text. -/
def layoutMembers
    (indent level : Nat)
    (members : List (String × Json))
    (after : List Char) :
    List Char :=
  match members with
  | [] => after
  | (name, value) :: rest =>
      newLine indent level
        (quote name ++ ':' :: ' ' ::
          layout indent level value
            (commaIfMore rest (layoutMembers indent level rest after)))

end

theorem newLine_append (indent level : Nat) (text after : List Char) :
    newLine indent level (text ++ after) = newLine indent level text ++ after := by
  simp [newLine]

theorem commaIfMore_append {α : Type} (rest : List α) (text after : List Char) :
    commaIfMore rest (text ++ after) = commaIfMore rest text ++ after := by
  cases rest <;> simp [commaIfMore]

theorem close_append
    {α : Type}
    (bracket : Char)
    (indent level : Nat)
    (list : List α)
    (after : List Char) :
    close bracket indent level list after = close bracket indent level list [] ++ after := by
  cases list <;> simp [close, newLine]

mutual

/-- The layout of a value does not depend on the text that follows it. -/
theorem layout_append (indent level : Nat) (value : Json) (text after : List Char) :
    layout indent level value (text ++ after) = layout indent level value text ++ after := by
  cases value with
  | null => simp [layout]
  | bool value => cases value <;> simp [layout]
  | int value => simp [layout]
  | float token => simp [layout]
  | string text => simp [layout]
  | array items =>
      rw [layout, layout, close_append, ← List.append_assoc, ← close_append,
        layoutItems_append, List.cons_append]
  | object members =>
      rw [layout, layout, close_append, ← List.append_assoc, ← close_append,
        layoutMembers_append, List.cons_append]

/-- The layout of items does not depend on the text that follows them. -/
theorem layoutItems_append (indent level : Nat) (items : List Json) (text after : List Char) :
    layoutItems indent level items (text ++ after) =
      layoutItems indent level items text ++ after := by
  cases items with
  | nil => simp [layoutItems]
  | cons item rest =>
      rw [layoutItems, layoutItems, layoutItems_append, commaIfMore_append, layout_append,
        newLine_append]

/-- The layout of members does not depend on the text that follows them. -/
theorem layoutMembers_append
    (indent level : Nat)
    (members : List (String × Json))
    (text after : List Char) :
    layoutMembers indent level members (text ++ after) =
      layoutMembers indent level members text ++ after := by
  cases members with
  | nil => simp [layoutMembers]
  | cons member rest =>
      obtain ⟨name, value⟩ := member
      rw [layoutMembers, layoutMembers, layoutMembers_append, commaIfMore_append, layout_append,
        ← newLine_append]
      simp

end

/-- The value as text, members in the order they have. -/
def render (value : Json) (indent : Nat) : String :=
  String.ofList (layout indent 0 value [])

/-- The canonical text of a value. -/
def canonicalize (value : Json) (indent : Nat) : String :=
  render (sortMembers value) indent

end Json
end Baseline
