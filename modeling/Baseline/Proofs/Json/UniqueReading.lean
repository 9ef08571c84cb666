import Baseline.Proofs.Json.Lexeme

/-!
# Canonical texts are uniquely readable

A canonical text still determines its value after all line breaks are taken out
of it: the first character tells the shape of a value, strings and numbers can
be read off the front of a text, and a comma, a closing bracket or a space tells
where an entry ends.  `layout_readable` carries this through the nesting, and
`render_inj` says it of whole texts.
-/

namespace Baseline
namespace Json

open Text (isLineBreak)

/-! ## First characters -/

/-- What the first character of its text tells about a value. -/
inductive Shape
  | null
  | bool (value : Bool)
  | number
  | string
  | array
  | object
  deriving DecidableEq

/-- The shape of a value. -/
def shape : Json → Shape
  | .null => .null
  | .bool value => .bool value
  | .int _ | .float _ => .number
  | .string _ => .string
  | .array _ => .array
  | .object _ => .object

/-- The shape of the values whose text starts with a character. -/
def shapeOf? (char : Char) : Option Shape :=
  if char = 'n' then some .null
  else if char = 't' then some (.bool true)
  else if char = 'f' then some (.bool false)
  else if char = '"' then some .string
  else if char = '[' then some .array
  else if char = '{' then some .object
  else if isNumberChar char then some .number
  else none

theorem shapeOf?_of_isNumberChar {char : Char} (number : isNumberChar char) :
    shapeOf? char = some .number := by
  have distinct (other : Char) (different : isNumberChar other = false) : char ≠ other := by
    rintro rfl
    rw [number] at different
    cases different
  rw [shapeOf?, if_neg (distinct _ (by decide)), if_neg (distinct _ (by decide)),
    if_neg (distinct _ (by decide)), if_neg (distinct _ (by decide)),
    if_neg (distinct _ (by decide)), if_neg (distinct _ (by decide)), if_pos number]

/-- A printed text starts with a character that a value can start with. -/
def StartsAs (shape : Shape) (text : List Char) : Prop :=
  ∃ first rest, text = first :: rest ∧ shapeOf? first = some shape

theorem StartsAs.unique
    {left right : Shape}
    {text : List Char}
    (leftStarts : StartsAs left text)
    (rightStarts : StartsAs right text) :
    left = right := by
  obtain ⟨first, rest, rfl, leftShape⟩ := leftStarts
  obtain ⟨_, _, ⟨rfl, rfl⟩, rightShape⟩ := rightStarts
  exact Option.some.inj (leftShape.symm.trans rightShape)

theorem startsAs_number
    {token : List Char}
    (numeric : ∀ char ∈ token, isNumberChar char)
    (nonempty : token ≠ [])
    (after : List Char) :
    StartsAs .number (token ++ after) := by
  obtain ⟨first, rest, rfl⟩ := List.exists_cons_of_ne_nil nonempty
  exact ⟨first, rest ++ after, rfl, shapeOf?_of_isNumberChar (numeric first List.mem_cons_self)⟩

theorem intToken_ne_nil (value : Int) : intToken value ≠ [] := by
  cases value with
  | ofNat value =>
      rw [intToken_ofNat]
      exact Nat.toDigits_ne_nil
  | negSucc value =>
      rw [intToken_negSucc]
      exact List.cons_ne_nil _ _

theorem IsFloatToken.ne_nil {token : String} (float : IsFloatToken token) :
    token.toList ≠ [] := by
  rcases float.2 with member | member
  · exact List.ne_nil_of_mem member
  · exact List.ne_nil_of_mem member

theorem bare_layout_int (indent level : Nat) (value : Int) (after : List Char) :
    bare (layout indent level (.int value) after) = intToken value ++ bare after := by
  rw [layout, bare_append]
  exact congrArg (· ++ bare after)
    (bare_number fun char member => isNumberChar_of_mem_intToken member)

theorem bare_layout_float
    (indent level : Nat)
    {token : String}
    (float : IsFloatToken token)
    (after : List Char) :
    bare (layout indent level (.float token) after) = token.toList ++ bare after := by
  rw [layout, bare_append, bare_number float.1]

theorem bare_layout_string (indent level : Nat) (text : String) (after : List Char) :
    bare (layout indent level (.string text) after) = quote text ++ bare after := by
  rw [layout, bare_append, bare_quote]

/-- The first character of a printed value tells its shape. -/
theorem layout_startsAs
    (indent level : Nat)
    {value : Json}
    (wellFormed : value.WellFormed)
    (after : List Char) :
    StartsAs value.shape (bare (layout indent level value after)) := by
  cases wellFormed with
  | null => exact ⟨'n', _, rfl, rfl⟩
  | bool value =>
      cases value with
      | true => exact ⟨'t', _, rfl, rfl⟩
      | false => exact ⟨'f', _, rfl, rfl⟩
  | int value =>
      rw [bare_layout_int]
      exact startsAs_number (fun _ => isNumberChar_of_mem_intToken) (intToken_ne_nil value) _
  | float float =>
      rw [bare_layout_float indent level float]
      exact startsAs_number float.1 float.ne_nil _
  | string text =>
      rw [bare_layout_string]
      exact ⟨'"', _, rfl, rfl⟩
  | array =>
      rw [layout]
      exact ⟨'[', _, rfl, rfl⟩
  | object =>
      rw [layout]
      exact ⟨'{', _, rfl, rfl⟩

/-! ## Lists of entries -/

variable {α : Type}

/-- The texts of entries, each on lines of its own, with commas between them,
followed by another text. -/
def layoutEntries
    (indent level : Nat)
    (entry : α → List Char → List Char) :
    List α → List Char → List Char
  | [], after => after
  | first :: rest, after =>
      newLine indent level
        (entry first (commaIfMore rest (layoutEntries indent level entry rest after)))

/-- The text of a member: its name, a colon, a space and its value. -/
def layoutMember
    (indent level : Nat)
    (member : String × Json)
    (after : List Char) :
    List Char :=
  quote member.1 ++ ':' :: ' ' :: layout indent level member.2 after

theorem layoutItems_eq_layoutEntries (indent level : Nat) (items : List Json) (after : List Char) :
    layoutItems indent level items after =
      layoutEntries indent level (layout indent level) items after := by
  induction items with
  | nil => rw [layoutItems, layoutEntries]
  | cons item rest inductionHypothesis =>
      rw [layoutItems, layoutEntries, inductionHypothesis]

theorem layoutMembers_eq_layoutEntries
    (indent level : Nat)
    (members : List (String × Json))
    (after : List Char) :
    layoutMembers indent level members after =
      layoutEntries indent level (layoutMember indent level) members after := by
  induction members with
  | nil => rw [layoutMembers, layoutEntries]
  | cons member rest inductionHypothesis =>
      rw [layoutMembers, layoutEntries, inductionHypothesis]
      rfl

/-- Printed entries are told apart from each other and from what follows
them. -/
def Readable
    (valid : α → Prop)
    (entry : α → List Char → List Char)
    (left : α) :
    Prop :=
  ∀ right leftRest rightRest,
    valid right →
    Ends (bare leftRest) →
    Ends (bare rightRest) →
    bare (entry left leftRest) = bare (entry right rightRest) →
    left = right ∧ bare leftRest = bare rightRest

/-- No value starts with the character, and it is part of no number. -/
structure IsClosing (char : Char) : Prop where
  /-- No value starts with the character. -/
  shapeless : shapeOf? char = none
  /-- The character is in no number. -/
  notNumber : isNumberChar char = false
  /-- The character does not break a line. -/
  visible : isLineBreak char = false
  /-- The character is no comma. -/
  notComma : char ≠ ','
  /-- The character is no space. -/
  notSpace : char ≠ ' '

theorem isClosing_bracket : IsClosing ']' :=
  ⟨rfl, rfl, rfl, by decide, by decide⟩

theorem isClosing_brace : IsClosing '}' :=
  ⟨rfl, rfl, rfl, by decide, by decide⟩

theorem bare_newLine_cons
    (indent level : Nat)
    {bracket : Char}
    (closing : IsClosing bracket)
    (after : List Char) :
    bare (newLine indent level (bracket :: after)) =
      List.replicate (indent * level) ' ' ++ bracket :: bare after := by
  rw [bare_newLine, bare_cons closing.visible]

theorem ends_spaces
    (count : Nat)
    {char : Char}
    (other : isNumberChar char = false)
    (rest : List Char) :
    Ends (List.replicate count ' ' ++ char :: rest) := by
  cases count with
  | zero => exact ends_cons other rest
  | succ count => exact ends_cons rfl _

section Entries

variable
  {valid : α → Prop}
  {entry : α → List Char → List Char}
  {indent level : Nat}
  {bracket : Char}

/-- After an entry there is a comma or the line of the closing bracket, and
neither goes on with a number. -/
theorem ends_after_entry
    (closing : IsClosing bracket)
    (rest : List α)
    (after : List Char) :
    Ends (bare (commaIfMore rest
      (layoutEntries indent (level + 1) entry rest
        (newLine indent level (bracket :: after))))) := by
  cases rest with
  | nil =>
      rw [commaIfMore, List.isEmpty_nil, if_pos rfl, layoutEntries,
        bare_newLine_cons _ _ closing]
      exact ends_spaces _ closing.notNumber _
  | cons next rest =>
      rw [commaIfMore, List.isEmpty_cons, if_neg (by decide), bare_cons rfl]
      exact ends_cons rfl _

/-- The first of some readable entries is told apart from what follows it. -/
theorem layoutEntries_first_inj
    (closing : IsClosing bracket)
    {leftFirst rightFirst : α}
    {left right : List α}
    {leftRest rightRest : List Char}
    (readable : Readable valid entry leftFirst)
    (rightValid : valid rightFirst)
    (equal :
      bare (layoutEntries indent (level + 1) entry (leftFirst :: left)
          (newLine indent level (bracket :: leftRest))) =
        bare (layoutEntries indent (level + 1) entry (rightFirst :: right)
          (newLine indent level (bracket :: rightRest)))) :
    leftFirst = rightFirst ∧
      bare (commaIfMore left (layoutEntries indent (level + 1) entry left
          (newLine indent level (bracket :: leftRest)))) =
        bare (commaIfMore right (layoutEntries indent (level + 1) entry right
          (newLine indent level (bracket :: rightRest)))) := by
  rw [layoutEntries, layoutEntries, bare_newLine, bare_newLine] at equal
  exact readable rightFirst _ _ rightValid (ends_after_entry closing left leftRest)
    (ends_after_entry closing right rightRest) (List.append_cancel_left equal)

/-- The line of a closing bracket is not mistaken for a comma. -/
theorem newLine_ne_comma
    (closing : IsClosing bracket)
    (after rest : List Char) :
    bare (newLine indent level (bracket :: after)) ≠ ',' :: rest := by
  rw [bare_newLine_cons _ _ closing]
  cases indent * level with
  | zero =>
      intro equal
      exact closing.notComma (List.cons.inj equal).1
  | succ count =>
      intro equal
      exact absurd (List.cons.inj equal).1 (by decide)

theorem bare_commaIfMore_nil (after : List Char) :
    bare (commaIfMore ([] : List α)
      (layoutEntries indent (level + 1) entry [] (newLine indent level after))) =
      bare (newLine indent level after) := rfl

theorem bare_commaIfMore_cons (next : α) (rest : List α) (after : List Char) :
    bare (commaIfMore (next :: rest) after) = ',' :: bare after := rfl

/-- Two nonempty lists of readable entries are told apart from each other and
from what follows the closing bracket. -/
theorem layoutEntries_cons_inj
    (closing : IsClosing bracket)
    {leftFirst rightFirst : α}
    {left right : List α}
    {leftRest rightRest : List Char}
    (readable : ∀ item ∈ leftFirst :: left, Readable valid entry item)
    (rightValid : ∀ item ∈ rightFirst :: right, valid item)
    (equal :
      bare (layoutEntries indent (level + 1) entry (leftFirst :: left)
          (newLine indent level (bracket :: leftRest))) =
        bare (layoutEntries indent (level + 1) entry (rightFirst :: right)
          (newLine indent level (bracket :: rightRest)))) :
    leftFirst :: left = rightFirst :: right ∧ bare leftRest = bare rightRest := by
  induction left generalizing leftFirst rightFirst right with
  | nil =>
      obtain ⟨rfl, following⟩ := layoutEntries_first_inj closing
        (readable leftFirst List.mem_cons_self) (rightValid rightFirst List.mem_cons_self) equal
      cases right with
      | nil =>
          rw [bare_commaIfMore_nil, bare_commaIfMore_nil, bare_newLine_cons _ _ closing,
            bare_newLine_cons _ _ closing] at following
          exact ⟨rfl, (List.cons.inj (List.append_cancel_left following)).2⟩
      | cons rightNext right =>
          rw [bare_commaIfMore_nil, bare_commaIfMore_cons] at following
          exact absurd following (newLine_ne_comma closing _ _)
  | cons leftNext left inductionHypothesis =>
      obtain ⟨rfl, following⟩ := layoutEntries_first_inj closing
        (readable leftFirst List.mem_cons_self) (rightValid rightFirst List.mem_cons_self) equal
      cases right with
      | nil =>
          rw [bare_commaIfMore_nil, bare_commaIfMore_cons] at following
          exact absurd following.symm (newLine_ne_comma closing _ _)
      | cons rightNext right =>
          rw [bare_commaIfMore_cons, bare_commaIfMore_cons] at following
          obtain ⟨rest_eq, after_eq⟩ := inductionHypothesis
            (fun item member => readable item (List.mem_cons_of_mem _ member))
            (fun item member => rightValid item (List.mem_cons_of_mem _ member))
            (List.cons.inj following).2
          exact ⟨congrArg (leftFirst :: ·) rest_eq, after_eq⟩

/-- A nonempty list does not start like an empty one: its first entry is no
closing bracket. -/
theorem layoutEntries_cons_ne
    (closing : IsClosing bracket)
    {first : α}
    {shape : Shape}
    (starts : ∀ after, StartsAs shape (bare (entry first after)))
    (rest : List α)
    (after following : List Char) :
    bare (layoutEntries indent level entry (first :: rest) after) ≠ bracket :: following := by
  rw [layoutEntries, bare_newLine]
  intro equal
  cases count : indent * level with
  | zero =>
      obtain ⟨char, text, text_eq, shaped⟩ := starts
        (commaIfMore rest (layoutEntries indent level entry rest after))
      rw [count, text_eq] at equal
      have same : char = bracket := (List.cons.inj equal).1
      rw [same, closing.shapeless] at shaped
      cases shaped
  | succ count' =>
      rw [count] at equal
      exact closing.notSpace (List.cons.inj equal).1.symm

/-- Two bracketed lists of readable entries are told apart from each other and
from what follows them. -/
theorem layoutEntries_inj
    (closing : IsClosing bracket)
    {left right : List α}
    {leftRest rightRest : List Char}
    (readable : ∀ item ∈ left, Readable valid entry item)
    (leftValid : ∀ item ∈ left, valid item)
    (rightValid : ∀ item ∈ right, valid item)
    (starts : ∀ item, valid item → ∃ shape, ∀ after, StartsAs shape (bare (entry item after)))
    (equal :
      bare (layoutEntries indent (level + 1) entry left
          (close bracket indent level left leftRest)) =
        bare (layoutEntries indent (level + 1) entry right
          (close bracket indent level right rightRest))) :
    left = right ∧ bare leftRest = bare rightRest := by
  cases left with
  | nil =>
      cases right with
      | nil =>
          have following : bracket :: bare leftRest = bracket :: bare rightRest := by
            simpa [layoutEntries, close, bare_cons closing.visible] using equal
          exact ⟨rfl, (List.cons.inj following).2⟩
      | cons first rest =>
          obtain ⟨shape, starts⟩ := starts first (rightValid first List.mem_cons_self)
          rw [layoutEntries, close, List.isEmpty_nil, if_pos rfl,
            bare_cons closing.visible] at equal
          exact absurd equal.symm (layoutEntries_cons_ne closing starts rest _ _)
  | cons first rest =>
      cases right with
      | nil =>
          obtain ⟨shape, starts⟩ := starts first (leftValid first List.mem_cons_self)
          rw [layoutEntries.eq_def _ _ _ [], close.eq_def _ _ _ [], List.isEmpty_nil, if_pos rfl,
            bare_cons closing.visible] at equal
          exact absurd equal (layoutEntries_cons_ne closing starts rest _ _)
      | cons otherFirst otherRest =>
          exact layoutEntries_cons_inj closing readable rightValid equal

end Entries

/-! ## Values -/

theorem bare_layout_array (indent level : Nat) (items : List Json) (after : List Char) :
    bare (layout indent level (.array items) after) =
      '[' :: bare (layoutEntries indent (level + 1) (layout indent (level + 1)) items
        (close ']' indent level items after)) := by
  rw [layout, bare_cons rfl, layoutItems_eq_layoutEntries]

theorem bare_layout_object
    (indent level : Nat)
    (members : List (String × Json))
    (after : List Char) :
    bare (layout indent level (.object members) after) =
      '{' :: bare (layoutEntries indent (level + 1) (layoutMember indent (level + 1)) members
        (close '}' indent level members after)) := by
  rw [layout, bare_cons rfl, layoutMembers_eq_layoutEntries]

theorem bare_layoutMember
    (indent level : Nat)
    (member : String × Json)
    (after : List Char) :
    bare (layoutMember indent level member after) =
      quote member.1 ++ ':' :: ' ' :: bare (layout indent level member.2 after) := by
  rw [layoutMember, bare_append, bare_quote, bare_cons rfl, bare_cons rfl]

theorem layoutMember_startsAs
    (indent level : Nat)
    (member : String × Json)
    (after : List Char) :
    StartsAs .string (bare (layoutMember indent level member after)) := by
  rw [bare_layoutMember]
  exact ⟨'"', _, rfl, rfl⟩

/-- A member is readable if its value is. -/
theorem layoutMember_readable
    {indent level : Nat}
    {member : String × Json}
    (readable : Readable WellFormed (layout indent level) member.2) :
    Readable (fun other => WellFormed other.2) (layoutMember indent level) member := by
  intro other leftRest rightRest otherFormed leftEnds rightEnds equal
  rw [bare_layoutMember, bare_layoutMember] at equal
  obtain ⟨sameName, following⟩ := quote_append_inj equal
  obtain ⟨sameValue, rest_eq⟩ := readable other.2 leftRest rightRest otherFormed leftEnds rightEnds
    (List.cons.inj (List.cons.inj following).2).2
  exact ⟨Prod.ext sameName sameValue, rest_eq⟩

/-- Values whose texts are equal up to line breaks have one shape. -/
theorem shape_eq_of_bare_eq
    {indent level : Nat}
    {left right : Json}
    {leftRest rightRest : List Char}
    (leftFormed : left.WellFormed)
    (rightFormed : right.WellFormed)
    (equal : bare (layout indent level left leftRest) =
      bare (layout indent level right rightRest)) :
    left.shape = right.shape :=
  (layout_startsAs indent level leftFormed leftRest).unique
    (equal ▸ layout_startsAs indent level rightFormed rightRest)

/-- A printed value is told apart from other values and from what follows it. -/
theorem layout_readable
    {left : Json}
    (leftFormed : left.WellFormed)
    (indent level : Nat) :
    Readable WellFormed (layout indent level) left := by
  induction leftFormed generalizing level with
  | null =>
      intro right leftRest rightRest rightFormed _ _ equal
      have sameShape := shape_eq_of_bare_eq .null rightFormed equal
      cases rightFormed with
      | null =>
          rw [layout, layout, bare_append, bare_append] at equal
          exact ⟨rfl, List.append_cancel_left equal⟩
      | _ => cases sameShape
  | bool value =>
      intro right leftRest rightRest rightFormed _ _ equal
      have sameShape := shape_eq_of_bare_eq (.bool value) rightFormed equal
      cases rightFormed with
      | bool other =>
          cases sameShape
          cases value <;>
          · rw [layout, layout, bare_append, bare_append] at equal
            exact ⟨rfl, List.append_cancel_left equal⟩
      | _ => cases sameShape
  | int value =>
      intro right leftRest rightRest rightFormed leftEnds rightEnds equal
      have sameShape := shape_eq_of_bare_eq (.int value) rightFormed equal
      have numeric : ∀ char ∈ intToken value, isNumberChar char :=
        fun _ => isNumberChar_of_mem_intToken
      cases rightFormed with
      | int other =>
          rw [bare_layout_int, bare_layout_int] at equal
          obtain ⟨tokens, rest_eq⟩ := number_append_inj numeric
            (fun _ => isNumberChar_of_mem_intToken) leftEnds rightEnds equal
          exact ⟨congrArg Json.int (intToken_injective tokens), rest_eq⟩
      | float float =>
          rw [bare_layout_int, bare_layout_float _ _ float] at equal
          have tokens := (number_append_inj numeric float.1 leftEnds rightEnds equal).1
          exact absurd tokens (intToken_ne_of_isFloatToken float)
      | _ => cases sameShape
  | float float =>
      intro right leftRest rightRest rightFormed leftEnds rightEnds equal
      have sameShape := shape_eq_of_bare_eq (.float float) rightFormed equal
      cases rightFormed with
      | int other =>
          rw [bare_layout_int, bare_layout_float _ _ float] at equal
          have tokens := (number_append_inj float.1
            (fun _ => isNumberChar_of_mem_intToken) leftEnds rightEnds equal).1
          exact absurd tokens.symm (intToken_ne_of_isFloatToken float)
      | float otherFloat =>
          rw [bare_layout_float _ _ float, bare_layout_float _ _ otherFloat] at equal
          obtain ⟨tokens, rest_eq⟩ :=
            number_append_inj float.1 otherFloat.1 leftEnds rightEnds equal
          exact ⟨congrArg Json.float (String.toList_injective tokens), rest_eq⟩
      | _ => cases sameShape
  | string text =>
      intro right leftRest rightRest rightFormed _ _ equal
      have sameShape := shape_eq_of_bare_eq (.string text) rightFormed equal
      cases rightFormed with
      | string other =>
          rw [bare_layout_string, bare_layout_string] at equal
          obtain ⟨texts, rest_eq⟩ := quote_append_inj equal
          exact ⟨congrArg Json.string texts, rest_eq⟩
      | _ => cases sameShape
  | @array items itemsFormed inductionHypothesis =>
      intro right leftRest rightRest rightFormed _ _ equal
      have sameShape := shape_eq_of_bare_eq (.array itemsFormed) rightFormed equal
      cases rightFormed with
      | array otherFormed =>
          rw [bare_layout_array, bare_layout_array] at equal
          obtain ⟨items_eq, rest_eq⟩ := layoutEntries_inj isClosing_bracket
            (fun item member => inductionHypothesis item member (level + 1))
            itemsFormed otherFormed
            (fun item formed => ⟨item.shape, layout_startsAs indent (level + 1) formed⟩)
            (List.cons.inj equal).2
          exact ⟨congrArg Json.array items_eq, rest_eq⟩
      | _ => cases sameShape
  | @object members namesNodup membersFormed inductionHypothesis =>
      intro right leftRest rightRest rightFormed _ _ equal
      have sameShape := shape_eq_of_bare_eq (.object namesNodup membersFormed) rightFormed equal
      cases rightFormed with
      | object _ otherFormed =>
          rw [bare_layout_object, bare_layout_object] at equal
          obtain ⟨members_eq, rest_eq⟩ := layoutEntries_inj isClosing_brace
            (fun member present =>
              layoutMember_readable (inductionHypothesis member present (level + 1)))
            membersFormed otherFormed
            (fun member _ => ⟨.string, layoutMember_startsAs indent (level + 1) member⟩)
            (List.cons.inj equal).2
          exact ⟨congrArg Json.object members_eq, rest_eq⟩
      | _ => cases sameShape

/-- Values with one rendering, line breaks apart, are equal. -/
theorem render_inj
    {indent : Nat}
    {left right : Json}
    (leftFormed : left.WellFormed)
    (rightFormed : right.WellFormed)
    (equal : Text.stripLineBreaks (left.render indent) =
      Text.stripLineBreaks (right.render indent)) :
    left = right := by
  have characters := congrArg String.toList equal
  rw [Text.toList_stripLineBreaks, Text.toList_stripLineBreaks, render, render,
    String.toList_ofList, String.toList_ofList] at characters
  have ends : Ends (bare []) := by simp [Ends]
  exact (layout_readable leftFormed indent 0 right [] [] rightFormed ends ends characters).1

/-- Canonical texts are equal, line breaks apart, exactly if sorting the members
gives one value. -/
theorem stripLineBreaks_canonicalize_eq_iff_sortMembers_eq
    {left right : Json}
    (leftFormed : left.WellFormed)
    (rightFormed : right.WellFormed)
    (indent : Nat) :
    Text.stripLineBreaks (left.canonicalize indent) =
        Text.stripLineBreaks (right.canonicalize indent) ↔
      left.sortMembers = right.sortMembers := by
  constructor
  · exact render_inj leftFormed.sortMembers rightFormed.sortMembers
  · intro equal
    rw [canonicalize, canonicalize, equal]

/-- Two values have one canonical text, line breaks apart, exactly if they are
equal up to the order of object members at every depth. -/
theorem stripLineBreaks_canonicalize_eq_iff
    {left right : Json}
    (leftFormed : left.WellFormed)
    (rightFormed : right.WellFormed)
    (indent : Nat) :
    Text.stripLineBreaks (left.canonicalize indent) =
        Text.stripLineBreaks (right.canonicalize indent) ↔
      left.Equivalent right := by
  rw [stripLineBreaks_canonicalize_eq_iff_sortMembers_eq leftFormed rightFormed]
  exact sortMembers_eq_iff leftFormed rightFormed

/-- Two objects that list their members in different orders have one canonical
text even on a single line, and it is the text of no other value. -/
theorem stripLineBreaks_canonicalize_eq_of_reordered :
    (object [("b", array [float "2.5", null]), ("a", string "\"\n")]).WellFormed ∧
      (object [("a", string "\"\n"), ("b", array [float "2.5", null])]).WellFormed ∧
      (Text.stripLineBreaks
            ((object [("b", array [float "2.5", null]), ("a", string "\"\n")]).canonicalize 0) =
          Text.stripLineBreaks
            ((object [("a", string "\"\n"), ("b", array [float "2.5", null])]).canonicalize 0) ↔
        (object [("b", array [float "2.5", null]), ("a", string "\"\n")]).Equivalent
          (object [("a", string "\"\n"), ("b", array [float "2.5", null])])) := by
  have items : (array [float "2.5", null]).WellFormed := by
    refine .array ?_
    rw [List.forall_mem_cons, List.forall_mem_singleton]
    exact ⟨.float (by decide), .null⟩
  have left : (object [("b", array [float "2.5", null]), ("a", string "\"\n")]).WellFormed := by
    refine .object (by decide) ?_
    rw [List.forall_mem_cons, List.forall_mem_singleton]
    exact ⟨items, .string _⟩
  have right : (object [("a", string "\"\n"), ("b", array [float "2.5", null])]).WellFormed := by
    refine .object (by decide) ?_
    rw [List.forall_mem_cons, List.forall_mem_singleton]
    exact ⟨.string _, items⟩
  exact ⟨left, right, stripLineBreaks_canonicalize_eq_iff left right 0⟩

end Json
end Baseline
