import Baseline.Proofs.Json.UniqueReading

/-!
# Lines of canonical text

A canonical text, ended by a line feed, is a sequence of ended lines none of
which is blank.  Text is printed in front of what follows it, so the claim is
carried from the end to the front: `Continues` says that a text goes on with a
line and then with such lines, `Fresh` that the line it goes on with is not
blank.
-/

namespace Baseline
namespace Json

open Text (isLineBreak)

/-- Ended lines, none of them blank and none with a carriage return. -/
inductive Lined : List Char → Prop
  | nil : Lined []
  | line {line rest : List Char} :
      line ≠ [] →
      (∀ char ∈ line, isLineBreak char = false) →
      Lined rest →
      Lined (line ++ '\n' :: rest)

/-- The end of a line, perhaps a blank one, and more lines. -/
def Continues (text : List Char) : Prop :=
  ∃ line rest,
    text = line ++ '\n' :: rest ∧ (∀ char ∈ line, isLineBreak char = false) ∧ Lined rest

/-- The end of a line that is not blank, and more lines. -/
def Fresh (text : List Char) : Prop :=
  ∃ char rest, text = char :: rest ∧ isLineBreak char = false ∧ Continues rest

theorem continues_lineFeed : Continues ['\n'] :=
  ⟨[], [], rfl, by simp, .nil⟩

theorem Continues.cons
    {char : Char}
    {text : List Char}
    (visible : isLineBreak char = false)
    (continues : Continues text) :
    Continues (char :: text) := by
  obtain ⟨line, rest, rfl, lineVisible, lined⟩ := continues
  exact ⟨char :: line, rest, rfl, List.forall_mem_cons.mpr ⟨visible, lineVisible⟩, lined⟩

theorem Continues.fresh
    {char : Char}
    {text : List Char}
    (visible : isLineBreak char = false)
    (continues : Continues text) :
    Fresh (char :: text) :=
  ⟨char, text, rfl, visible, continues⟩

theorem Fresh.continues {text : List Char} (fresh : Fresh text) : Continues text := by
  obtain ⟨char, rest, rfl, visible, continues⟩ := fresh
  exact continues.cons visible

theorem Fresh.lined {text : List Char} (fresh : Fresh text) : Lined text := by
  obtain ⟨char, rest, rfl, visible, line, later, rfl, lineVisible, lined⟩ := fresh
  have whole : ∀ mark ∈ char :: line, isLineBreak mark = false :=
    List.forall_mem_cons.mpr ⟨visible, lineVisible⟩
  exact Lined.line (List.cons_ne_nil char line) whole lined

theorem Continues.append
    {front text : List Char}
    (visible : ∀ char ∈ front, isLineBreak char = false)
    (continues : Continues text) :
    Continues (front ++ text) := by
  obtain ⟨line, rest, rfl, lineVisible, lined⟩ := continues
  refine ⟨front ++ line, rest, (List.append_assoc _ _ _).symm, ?_, lined⟩
  intro char member
  exact (List.mem_append.mp member).elim (visible char) (lineVisible char)

theorem Continues.fresh_append
    {front text : List Char}
    (nonempty : front ≠ [])
    (visible : ∀ char ∈ front, isLineBreak char = false)
    (continues : Continues text) :
    Fresh (front ++ text) := by
  obtain ⟨char, rest, rfl⟩ := List.exists_cons_of_ne_nil nonempty
  obtain ⟨charVisible, restVisible⟩ := List.forall_mem_cons.mp visible
  exact (continues.append restVisible).fresh charVisible

/-! ## What is printed in front of a text -/

/-- A new line that goes on with a fresh text is not blank. -/
theorem continues_newLine
    (indent level : Nat)
    {after : List Char}
    (fresh : Fresh after) :
    Continues (newLine indent level after) := by
  have spaces (count : Nat) : ∀ char ∈ List.replicate count ' ', isLineBreak char = false := by
    intro char member
    rw [List.eq_of_mem_replicate member]
    rfl
  refine ⟨[], List.replicate (indent * level) ' ' ++ after, rfl, by simp, ?_⟩
  cases indent * level with
  | zero => exact fresh.lined
  | succ count =>
      exact (fresh.continues.fresh_append (List.cons_ne_nil _ _) (spaces (count + 1))).lined

theorem continues_commaIfMore
    {α : Type}
    (rest : List α)
    {after : List Char}
    (continues : Continues after) :
    Continues (commaIfMore rest after) := by
  cases rest with
  | nil => exact continues
  | cons first rest => exact continues.cons rfl

theorem continues_close
    {α : Type}
    {bracket : Char}
    (visible : isLineBreak bracket = false)
    (indent level : Nat)
    (list : List α)
    {after : List Char}
    (continues : Continues after) :
    Continues (close bracket indent level list after) := by
  cases list with
  | nil => exact continues.cons visible
  | cons first rest => exact continues_newLine indent level (continues.fresh visible)

theorem continues_layoutEntries
    {α : Type}
    (indent level : Nat)
    {entry : α → List Char → List Char}
    {entries : List α}
    (fresh : ∀ item ∈ entries, ∀ {after}, Continues after → Fresh (entry item after))
    {after : List Char}
    (continues : Continues after) :
    Continues (layoutEntries indent level entry entries after) := by
  induction entries with
  | nil => exact continues
  | cons item rest inductionHypothesis =>
      obtain ⟨itemFresh, restFresh⟩ := List.forall_mem_cons.mp fresh
      rw [layoutEntries]
      exact continues_newLine indent level
        (itemFresh (continues_commaIfMore rest (inductionHypothesis restFresh)))

theorem fresh_quote
    (text : String)
    {after : List Char}
    (continues : Continues after) :
    Fresh (quote text ++ after) :=
  continues.fresh_append (List.cons_ne_nil _ _) fun _ => isLineBreak_of_mem_quote

/-- A value is printed as a text that starts within a line. -/
theorem fresh_layout
    {value : Json}
    (wellFormed : value.WellFormed)
    (indent level : Nat)
    {after : List Char}
    (continues : Continues after) :
    Fresh (layout indent level value after) := by
  induction wellFormed generalizing level after with
  | null =>
      rw [layout]
      exact continues.fresh_append (by decide) (visible_of_all (by decide))
  | bool value =>
      cases value with
      | true =>
          rw [layout]
          exact continues.fresh_append (by decide) (visible_of_all (by decide))
      | false =>
          rw [layout]
          exact continues.fresh_append (by decide) (visible_of_all (by decide))
  | int value =>
      rw [layout]
      exact continues.fresh_append (intToken_ne_nil value)
        fun _ member => isLineBreak_of_isNumberChar (isNumberChar_of_mem_intToken member)
  | float float =>
      rw [layout]
      exact continues.fresh_append float.ne_nil
        fun char member => isLineBreak_of_isNumberChar (float.1 char member)
  | string text =>
      rw [layout]
      exact fresh_quote text continues
  | array _ itemFresh =>
      rw [layout, layoutItems_eq_layoutEntries]
      refine (continues_layoutEntries indent (level + 1) ?_ ?_).fresh rfl
      · exact fun item member _ => itemFresh item member (level + 1)
      · exact continues_close rfl indent level _ continues
  | object _ _ memberFresh =>
      rw [layout, layoutMembers_eq_layoutEntries]
      refine (continues_layoutEntries indent (level + 1) ?_ ?_).fresh rfl
      · intro member present after continues
        have valueFresh := memberFresh member present (level + 1) continues
        exact fresh_quote member.1 ((valueFresh.continues.cons rfl).cons rfl)
      · exact continues_close rfl indent level _ continues

/-- A canonical text and a line feed are ended lines, none of them blank. -/
theorem lined_canonicalize
    {value : Json}
    (wellFormed : value.WellFormed)
    (indent : Nat) :
    Lined (value.canonicalize indent ++ "\n").toList := by
  have fresh := fresh_layout wellFormed.sortMembers indent 0 continues_lineFeed
  rw [canonicalize, render, String.toList_append, String.toList_ofList]
  have printed := layout_append indent 0 value.sortMembers [] ['\n']
  rw [List.nil_append] at printed
  exact printed ▸ fresh.lined

/-- A canonical text does not consist of line breaks only. -/
theorem stripLineBreaks_canonicalize_ne_empty
    {value : Json}
    (wellFormed : value.WellFormed)
    (indent : Nat) :
    Text.stripLineBreaks (value.canonicalize indent) ≠ "" := by
  intro empty
  have characters := congrArg String.toList empty
  rw [Text.toList_stripLineBreaks, canonicalize, render, String.toList_ofList] at characters
  obtain ⟨first, rest, text_eq, _⟩ := layout_startsAs indent 0 wellFormed.sortMembers []
  exact List.cons_ne_nil first rest (text_eq.symm.trans characters)

end Json
end Baseline
