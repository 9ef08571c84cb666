import Baseline.Proofs.Json.Equivalence
import Baseline.Text.LineBreaks
import Mathlib.Tactic.IntervalCases

/-!
# Strings and numbers in front of a text

Quoted strings and numbers hold no line breaks, and both can be read off the
front of a text: a string ends at its closing quotation mark
(`quote_append_inj`), a number ends where no character of a number follows
(`number_append_inj`).
-/

namespace Baseline
namespace Json

open Text (isLineBreak)

/-! ## Texts without line breaks -/

/-- The characters of a text that do not break lines. -/
def bare (text : List Char) : List Char :=
  text.filter fun char => !isLineBreak char

@[simp] theorem bare_nil : bare [] = [] := rfl

@[simp] theorem bare_append (left right : List Char) :
    bare (left ++ right) = bare left ++ bare right :=
  List.filter_append left right

theorem bare_cons {char : Char} (visible : isLineBreak char = false) (rest : List Char) :
    bare (char :: rest) = char :: bare rest := by
  simp [bare, visible]

theorem bare_eq_self {text : List Char} (visible : ∀ char ∈ text, isLineBreak char = false) :
    bare text = text := by
  rw [bare, List.filter_eq_self]
  intro char member
  simp [visible char member]

/-- A character with a property that no line break has does not break a line. -/
theorem isLineBreak_eq_false
    {char : Char}
    (property : Char → Prop)
    (holds : property char)
    (notReturn : ¬property '\r')
    (notFeed : ¬property '\n') :
    isLineBreak char = false := by
  rw [Bool.eq_false_iff]
  intro breaks
  simp only [isLineBreak, Bool.or_eq_true, beq_iff_eq] at breaks
  rcases breaks with rfl | rfl
  · exact notReturn holds
  · exact notFeed holds

@[simp] theorem bare_newLine (indent level : Nat) (after : List Char) :
    bare (newLine indent level after) = List.replicate (indent * level) ' ' ++ bare after := by
  have spaces : bare (List.replicate (indent * level) ' ') = List.replicate (indent * level) ' ' :=
    bare_eq_self fun char member => by rw [List.eq_of_mem_replicate member]; rfl
  rw [newLine, List.cons_append, ← spaces, ← bare_append, spaces]
  rfl

/-! ## Quoted strings -/

/-- The value of a hexadecimal digit. -/
def hexValue (char : Char) : Nat :=
  (List.range 16).find? (fun value => hexDigit value == char) |>.getD 0

/-- The character that is escaped at the front of a text, and what follows. -/
def unescape : List Char → Option (Char × List Char)
  | '\\' :: '"' :: rest => some ('"', rest)
  | '\\' :: '\\' :: rest => some ('\\', rest)
  | '\\' :: 'b' :: rest => some ('\x08', rest)
  | '\\' :: 'f' :: rest => some ('\x0c', rest)
  | '\\' :: 'n' :: rest => some ('\n', rest)
  | '\\' :: 'r' :: rest => some ('\r', rest)
  | '\\' :: 't' :: rest => some ('\t', rest)
  | '\\' :: 'u' :: '0' :: '0' :: high :: low :: rest =>
      some (Char.ofNat (16 * hexValue high + hexValue low), rest)
  | char :: rest => some (char, rest)
  | [] => none

/-- A character is a control character, a quotation mark, a backslash, or stands
for itself in a quoted string. -/
theorem escape_forms (char : Char) :
    (∃ value < 32, char = Char.ofNat value) ∨ char = '"' ∨ char = '\\' ∨
      (escape char = [char] ∧ 32 ≤ char.toNat ∧ char ≠ '"' ∧ char ≠ '\\') := by
  by_cases control : char.toNat < 32
  · exact .inl ⟨char.toNat, control, (Char.ofNat_toNat char).symm⟩
  · by_cases mark : char = '"'
    · exact .inr (.inl mark)
    · by_cases backslash : char = '\\'
      · exact .inr (.inr (.inl backslash))
      · refine .inr (.inr (.inr ⟨?_, by omega, mark, backslash⟩))
        have distinct (other : Char) (small : other.toNat < 32) : char ≠ other :=
          fun equal => control (equal ▸ small)
        rw [escape, if_neg mark, if_neg backslash, if_neg (distinct _ (by decide)),
          if_neg (distinct _ (by decide)), if_neg (distinct _ (by decide)),
          if_neg (distinct _ (by decide)), if_neg (distinct _ (by decide)), if_neg control]

/-- An escaped character is read back. -/
theorem unescape_escape (char : Char) (rest : List Char) :
    unescape (escape char ++ rest) = some (char, rest) := by
  rcases escape_forms char with ⟨value, small, rfl⟩ | rfl | rfl | ⟨plain, _, _, notBackslash⟩
  · interval_cases value <;> rfl
  · rfl
  · rfl
  · rw [plain, List.cons_append, List.nil_append, unescape.eq_def]
    split <;> simp_all

theorem visible_of_all
    {text : List Char}
    (visible : text.all fun char => !isLineBreak char) :
    ∀ char ∈ text, isLineBreak char = false := by
  intro char member
  simpa using List.all_eq_true.mp visible char member

theorem escape_control : ∀ value < 32,
    (escape (Char.ofNat value)).head? = some '\\' ∧
      (escape (Char.ofNat value)).all fun mark => !isLineBreak mark := by
  decide

/-- An escaped character does not end the string. -/
theorem escape_head (char : Char) :
    ∃ first rest, escape char = first :: rest ∧ first ≠ '"' := by
  rcases escape_forms char with ⟨value, small, rfl⟩ | rfl | rfl | ⟨plain, _, notMark, _⟩
  · obtain ⟨rest, escape_eq⟩ := List.head?_eq_some_iff.mp (escape_control value small).1
    exact ⟨'\\', rest, escape_eq, by decide⟩
  · exact ⟨'\\', ['"'], rfl, by decide⟩
  · exact ⟨'\\', ['\\'], rfl, by decide⟩
  · exact ⟨char, [], plain, notMark⟩

/-- An escaped character does not break a line. -/
theorem isLineBreak_of_mem_escape
    {char mark : Char}
    (member : mark ∈ escape char) :
    isLineBreak mark = false := by
  rcases escape_forms char with ⟨value, small, rfl⟩ | rfl | rfl | ⟨plain, visible, _, _⟩
  · exact visible_of_all (escape_control value small).2 mark member
  · exact visible_of_all (by decide) mark member
  · exact visible_of_all (by decide) mark member
  · rw [plain, List.mem_singleton] at member
    subst member
    exact isLineBreak_eq_false (32 ≤ ·.toNat) visible (by decide) (by decide)

theorem isLineBreak_of_mem_quote
    {text : String}
    {mark : Char}
    (member : mark ∈ quote text) :
    isLineBreak mark = false := by
  simp only [quote, List.cons_append, List.mem_cons, List.mem_append, List.mem_flatMap,
    List.not_mem_nil, or_false] at member
  rcases member with rfl | ⟨char, _, present⟩ | rfl
  · rfl
  · exact isLineBreak_of_mem_escape present
  · rfl

@[simp] theorem bare_quote (text : String) : bare (quote text) = quote text :=
  bare_eq_self fun _ => isLineBreak_of_mem_quote

/-- The end of a quoted string is found wherever the text goes on. -/
theorem escaped_append_inj
    {left right leftRest rightRest : List Char}
    (equal : left.flatMap escape ++ '"' :: leftRest =
      right.flatMap escape ++ '"' :: rightRest) :
    left = right ∧ leftRest = rightRest := by
  induction left generalizing right with
  | nil =>
      cases right with
      | nil => simpa using equal
      | cons char right =>
          obtain ⟨first, rest, escape_eq, notMark⟩ := escape_head char
          rw [List.flatMap_cons, escape_eq] at equal
          exact absurd (List.cons.inj equal).1.symm notMark
  | cons char left inductionHypothesis =>
      cases right with
      | nil =>
          obtain ⟨first, rest, escape_eq, notMark⟩ := escape_head char
          rw [List.flatMap_cons, escape_eq] at equal
          exact absurd (List.cons.inj equal).1 notMark
      | cons other right =>
          rw [List.flatMap_cons, List.flatMap_cons, List.append_assoc, List.append_assoc] at equal
          have read := congrArg unescape equal
          rw [unescape_escape, unescape_escape, Option.some.injEq, Prod.mk.injEq] at read
          obtain ⟨rfl, following⟩ := read
          obtain ⟨rfl, rest_eq⟩ := inductionHypothesis following
          exact ⟨rfl, rest_eq⟩

/-- A quoted string is told apart from what follows it. -/
theorem quote_append_inj
    {left right : String}
    {leftRest rightRest : List Char}
    (equal : quote left ++ leftRest = quote right ++ rightRest) :
    left = right ∧ leftRest = rightRest := by
  simp only [quote, List.cons_append, List.append_assoc, List.cons.injEq, true_and,
    List.nil_append] at equal
  obtain ⟨characters, rest_eq⟩ := escaped_append_inj equal
  exact ⟨String.toList_injective characters, rest_eq⟩

/-! ## Numbers -/

/-- The text does not go on with a character of a number. -/
def Ends (text : List Char) : Prop :=
  ∀ char ∈ text.head?, isNumberChar char = false

theorem ends_cons {char : Char} (other : isNumberChar char = false) (rest : List Char) :
    Ends (char :: rest) := by
  rintro first ⟨⟩
  exact other

/-- An integer as it is printed. -/
def intToken (value : Int) : List Char :=
  (toString value).toList

theorem intToken_ofNat (value : Nat) : intToken (.ofNat value) = Nat.toDigits 10 value := by
  rw [intToken, Int.toString_eq_repr, Int.repr, Nat.toList_repr]

theorem intToken_negSucc (value : Nat) :
    intToken (.negSucc value) = '-' :: Nat.toDigits 10 (value + 1) := by
  rw [intToken, Int.toString_eq_repr, Int.repr, String.toList_append, Nat.toList_repr]
  rfl

theorem toDigits_injective {left right : Nat}
    (equal : Nat.toDigits 10 left = Nat.toDigits 10 right) :
    left = right := by
  rw [← Nat.ofDigitChars_ten_toDigits (n := left), equal, Nat.ofDigitChars_ten_toDigits]

theorem minus_not_mem_toDigits (number : Nat) : '-' ∉ Nat.toDigits 10 number := by
  intro member
  exact absurd (Nat.isDigit_of_mem_toDigits (by decide) (by decide) member) (by decide)

/-- Different integers are printed differently. -/
theorem intToken_injective {left right : Int} (equal : intToken left = intToken right) :
    left = right := by
  cases left with
  | ofNat left =>
      cases right with
      | ofNat right =>
          rw [intToken_ofNat, intToken_ofNat] at equal
          rw [toDigits_injective equal]
      | negSucc right =>
          rw [intToken_ofNat, intToken_negSucc] at equal
          exact absurd (equal ▸ List.mem_cons_self) (minus_not_mem_toDigits left)
  | negSucc left =>
      cases right with
      | ofNat right =>
          rw [intToken_ofNat, intToken_negSucc] at equal
          exact absurd (equal ▸ List.mem_cons_self) (minus_not_mem_toDigits right)
      | negSucc right =>
          rw [intToken_negSucc, intToken_negSucc, List.cons.injEq] at equal
          rw [Nat.succ.inj (toDigits_injective equal.2)]

theorem mem_intToken {value : Int} {char : Char} (member : char ∈ intToken value) :
    char.isDigit ∨ char = '-' := by
  cases value with
  | ofNat value =>
      rw [intToken_ofNat] at member
      exact .inl (Nat.isDigit_of_mem_toDigits (by decide) (by decide) member)
  | negSucc value =>
      rw [intToken_negSucc, List.mem_cons] at member
      rcases member with rfl | member
      · exact .inr rfl
      · exact .inl (Nat.isDigit_of_mem_toDigits (by decide) (by decide) member)

theorem isNumberChar_of_mem_intToken {value : Int} {char : Char}
    (member : char ∈ intToken value) :
    isNumberChar char := by
  rcases mem_intToken member with digit | rfl
  · simp [isNumberChar, digit]
  · rfl

/-- No integer is printed as a float is. -/
theorem intToken_ne_of_isFloatToken
    {value : Int}
    {token : String}
    (float : IsFloatToken token) :
    intToken value ≠ token.toList := by
  intro equal
  rcases float.2 with point | exponent
  · rw [← equal] at point
    exact absurd (mem_intToken point) (by decide)
  · rw [← equal] at exponent
    exact absurd (mem_intToken exponent) (by decide)

theorem isLineBreak_of_isNumberChar {char : Char} (number : isNumberChar char) :
    isLineBreak char = false :=
  isLineBreak_eq_false (isNumberChar ·) number (by decide) (by decide)

theorem bare_number
    {token : List Char}
    (numeric : ∀ char ∈ token, isNumberChar char) :
    bare token = token :=
  bare_eq_self fun char member => isLineBreak_of_isNumberChar (numeric char member)

/-- A number is told apart from what follows it. -/
theorem number_append_inj
    {left right leftRest rightRest : List Char}
    (leftNumeric : ∀ char ∈ left, isNumberChar char)
    (rightNumeric : ∀ char ∈ right, isNumberChar char)
    (leftEnds : Ends leftRest)
    (rightEnds : Ends rightRest)
    (equal : left ++ leftRest = right ++ rightRest) :
    left = right ∧ leftRest = rightRest := by
  have front {token rest : List Char} (numeric : ∀ char ∈ token, isNumberChar char)
      (ends : Ends rest) : (token ++ rest).takeWhile isNumberChar = token := by
    rw [List.takeWhile_append_of_pos numeric]
    cases rest with
    | nil => simp
    | cons char rest => simp [ends char rfl]
  have tokens := congrArg (List.takeWhile isNumberChar) equal
  rw [front leftNumeric leftEnds, front rightNumeric rightEnds] at tokens
  subst tokens
  exact ⟨rfl, List.append_cancel_left equal⟩

end Json
end Baseline
