import Baseline.Unicode.Words

/-!
# Inside a word

A character without a role in segmentation that is no pictograph always starts
a word (`not_inert_of_mem_take_wordTail`).  The word it starts goes on after it
exactly if the next character attaches to it (`wordTail_eq_zero_iff`), and then
holds only attached characters and pictographs (`attached_of_mem_take_wordTail`).
-/

namespace Baseline
namespace Unicode

/-- The character has no role in segmentation and is no pictograph. -/
def IsInert (char : Char) : Prop :=
  WordBreak.ofChar char = .other ∧ isPictographic char = false

instance (char : Char) : Decidable (IsInert char) :=
  inferInstanceAs (Decidable (_ ∧ _))

/-- The character attaches to what precedes it. -/
def isAttached (char : Char) : Bool :=
  (WordBreak.ofChar char).attaches

/-- The text starts with a character that attaches to what precedes it. -/
def startsAttached (text : List Char) : Bool :=
  text.head?.any isAttached

theorem startsAttached_append
    {text rest : List Char}
    (attached : startsAttached text) :
    startsAttached (text ++ rest) := by
  cases text with
  | nil => cases attached
  | cons head tail => exact attached

variable
  {first char : Char}
  {rest : List Char}
  {state : WordState}
  {marked joined : Bool}
  {length : Nat}

/-! ## One more character -/

theorem WordState.next_other (state : WordState) (length : Nat) (marked : Bool) :
    state.next length marked .other = none := by
  cases state <;> rfl

theorem WordState.next_closed (role : WordBreak) (length : Nat) (marked : Bool) :
    WordState.closed.next length marked role = none := by
  cases role <;> rfl

theorem WordState.cut_succ_le (bounded : state.cut length ≤ length) :
    state.cut (length + 1) ≤ length + 1 := by
  cases state with
  | needLetter | needHebrew | needDigit => exact Nat.le_succ_of_le bounded
  | _ => exact Nat.le_refl _

/-- A word that goes on does not reach back beyond the characters read. -/
theorem WordState.cut_next_le
    {after : WordState}
    {role : WordBreak}
    (goesOn : state.next length marked role = some after) :
    after.cut (length + 1) ≤ length + 1 := by
  cases marked <;> cases state <;> cases role <;> cases goesOn <;> simp [cut]

theorem mem_take_sub
    {head : Char}
    {total : Nat}
    (member : char ∈ (head :: rest).take (total - length)) :
    char = head ∨ char ∈ rest.take (total - (length + 1)) := by
  rw [← Nat.sub_sub]
  cases positive : total - length with
  | zero => simp [positive] at member
  | succ count => simpa [positive] using member

/-- If all states of a word have a property, and the characters that they let in have
another one, then all characters after those already read have it. -/
theorem of_mem_take_wordLength
    (Stays : WordState → Prop)
    (Allowed : Char → Prop)
    (closed : Stays .closed)
    (attached : ∀ char, isAttached char → Allowed char)
    (pictographic : ∀ char, isPictographic char → Allowed char)
    (next : ∀ {state after length marked char}, Stays state →
      state.next length marked (WordBreak.ofChar char) = some after → Stays after ∧ Allowed char)
    (stays : Stays state)
    (bounded : state.cut length ≤ length)
    (member : char ∈ rest.take (wordLength state marked joined length rest - length)) :
    Allowed char := by
  induction rest generalizing state marked joined length with
  | nil => simp at member
  | cons head rest inductionHypothesis =>
      rw [wordLength] at member
      split at member
      next attaches =>
        rcases mem_take_sub member with rfl | member
        · exact attached char attaches
        · exact inductionHypothesis stays (WordState.cut_succ_le bounded) member
      next =>
        split at member
        next joins =>
          rcases mem_take_sub member with rfl | member
          · exact pictographic char (Bool.and_eq_true_iff.mp joins).2
          · exact inductionHypothesis closed (Nat.le_refl _) member
        next =>
          split at member
          next after goesOn =>
            obtain ⟨afterStays, allowed⟩ := next stays goesOn
            rcases mem_take_sub member with rfl | member
            · exact allowed
            · exact inductionHypothesis afterStays (WordState.cut_next_le goesOn) member
          next =>
            -- The word ends here or is cut before: it lets in none of the rest.
            simp [Nat.sub_eq_zero_of_le bounded] at member

/-! ## The characters after the first one -/

theorem wordTail_of_inert (inert : IsInert first) :
    wordTail first rest = wordLength .closed false false 1 rest - 1 := by
  unfold wordTail
  split
  next => exact absurd inert.1 (by decide)
  next =>
    simp only [inert.1]
    rfl

theorem not_inert_of_isAttached (attaches : isAttached char) : ¬IsInert char := by
  intro inert
  rw [isAttached, inert.1] at attaches
  cases attaches

theorem not_inert_of_isPictographic (pictographic : isPictographic char) : ¬IsInert char := by
  intro inert
  rw [inert.2] at pictographic
  cases pictographic

theorem WordState.cut_start_le {role : WordBreak} (starts : start role = some state) :
    state.cut 1 ≤ 1 := by
  cases role <;> cases starts <;> exact Nat.le_refl _

/-- No character but the first one of a word is inert. -/
theorem not_inert_of_mem_take_wordTail (member : char ∈ rest.take (wordTail first rest)) :
    ¬IsInert char := by
  unfold wordTail at member
  split at member
  next =>
    rw [List.take_succ_cons, List.take_zero, List.mem_singleton] at member
    rw [member]
    decide
  next =>
    dsimp only at member
    split at member
    next starts =>
      refine of_mem_take_wordLength (fun _ => True) (fun char => ¬IsInert char) trivial
        (fun _ => not_inert_of_isAttached) (fun _ => not_inert_of_isPictographic) ?_ trivial
        (WordState.cut_start_le starts) member
      intro state after length marked char _ goesOn
      refine ⟨trivial, fun inert => ?_⟩
      rw [inert.1, WordState.next_other] at goesOn
      cases goesOn
    next => simp at member

/-- A word that can go on by attaching only holds, after its first character, attached
characters and pictographs. -/
theorem attached_of_mem_of_closed
    (closed : WordState.start (WordBreak.ofChar first) = some .closed)
    (member : char ∈ rest.take (wordTail first rest)) :
    isAttached char ∨ isPictographic char := by
  unfold wordTail at member
  split at member
  next =>
    rw [show WordBreak.ofChar '\r' = .carriageReturn by decide] at closed
    cases closed
  next =>
    simp only [closed] at member
    refine of_mem_take_wordLength (fun state => state = .closed)
      (fun char => isAttached char ∨ isPictographic char) rfl
      (fun _ => .inl) (fun _ => .inr) ?_ rfl (Nat.le_refl _) member
    rintro _ after length marked char rfl goesOn
    rw [WordState.next_closed] at goesOn
    cases goesOn

/-- After an inert character a word holds only attached characters and pictographs. -/
theorem attached_of_mem_take_wordTail
    (inert : IsInert first)
    (member : char ∈ rest.take (wordTail first rest)) :
    isAttached char ∨ isPictographic char := by
  refine attached_of_mem_of_closed ?_ member
  rw [inert.1]
  rfl

theorem le_wordLength_closed : length ≤ wordLength .closed marked joined length rest := by
  induction rest generalizing marked joined length with
  | nil => exact Nat.le_refl _
  | cons head rest inductionHypothesis =>
      rw [wordLength, WordState.next_closed]
      split
      · exact Nat.le_of_succ_le inductionHypothesis
      · split
        · exact Nat.le_of_succ_le inductionHypothesis
        · exact Nat.le_refl _

/-- A word that starts with an inert character ends with it unless a character attaches. -/
theorem wordTail_eq_zero_iff (inert : IsInert first) :
    wordTail first rest = 0 ↔ startsAttached rest = false := by
  rw [wordTail_of_inert inert]
  cases rest with
  | nil => exact ⟨fun _ => rfl, fun _ => rfl⟩
  | cons head rest =>
      rw [wordLength, WordState.next_closed]
      change _ ↔ (WordBreak.ofChar head).attaches = false
      cases attaches : (WordBreak.ofChar head).attaches with
      | true =>
          refine iff_of_false ?_ (by simp)
          rw [if_pos rfl]
          exact Nat.sub_ne_zero_of_lt le_wordLength_closed
      | false => simp [WordState.cut]

end Unicode
end Baseline
