import Mathlib.Data.List.Basic

/-!
# Carriage returns before line feeds

A text whose lines end with a line feed can be written with a carriage return
before each line feed.  Nothing else of the text changes: deleting the carriage
returns gives the text back (`deleteReturns_addReturns`).
-/

namespace Baseline
namespace Text

/-- The text with a carriage return before each line feed. -/
def addReturns (text : List Char) : List Char :=
  text.flatMap fun char => if char = '\n' then ['\r', '\n'] else [char]

/-- The text without its carriage returns. -/
def deleteReturns (text : List Char) : List Char :=
  text.filter (· ≠ '\r')

/-- The text as the same lines, each ended by a carriage return and a line feed. -/
def withReturns (text : String) : String :=
  String.ofList (addReturns text.toList)

variable
  {char : Char}
  {text rest left right : List Char}

@[simp] theorem addReturns_nil : addReturns [] = [] := rfl

@[simp] theorem addReturns_append (left right : List Char) :
    addReturns (left ++ right) = addReturns left ++ addReturns right :=
  List.flatMap_append

@[simp] theorem addReturns_feed (rest : List Char) :
    addReturns ('\n' :: rest) = '\r' :: '\n' :: addReturns rest := rfl

theorem addReturns_cons (other : char ≠ '\n') (rest : List Char) :
    addReturns (char :: rest) = char :: addReturns rest := by
  rw [addReturns, List.flatMap_cons, if_neg other]
  rfl

/-- Only line feeds get a carriage return. -/
theorem addReturns_eq_self (noFeed : '\n' ∉ text) : addReturns text = text := by
  induction text with
  | nil => rfl
  | cons char rest inductionHypothesis =>
      rw [List.mem_cons, not_or] at noFeed
      rw [addReturns_cons (Ne.symm noFeed.1), inductionHypothesis noFeed.2]

/-- Every line feed gets a carriage return. -/
theorem return_mem_addReturns (feed : '\n' ∈ text) : '\r' ∈ addReturns text := by
  obtain ⟨before, after, rfl⟩ := List.append_of_mem feed
  rw [addReturns_append, addReturns_feed]
  simp

/-- What starts a text without a line feed starts the text with carriage returns. -/
theorem eq_cons_of_addReturns_eq_cons
    (other : char ≠ '\r')
    (text_eq : addReturns text = char :: rest) :
    ∃ later, text = char :: later := by
  cases text with
  | nil => cases text_eq
  | cons head later =>
      by_cases isFeed : head = '\n'
      · rw [isFeed, addReturns_feed] at text_eq
        exact absurd (List.cons.inj text_eq).1.symm other
      · rw [addReturns_cons isFeed] at text_eq
        rw [(List.cons.inj text_eq).1]
        exact ⟨later, rfl⟩

/-- A beginning without line feeds is the same with carriage returns. -/
theorem take_addReturns {count : Nat} (noFeed : '\n' ∉ text.take count) :
    (addReturns text).take count = text.take count ∧
      (addReturns text).drop count = addReturns (text.drop count) := by
  induction count generalizing text with
  | zero => simp
  | succ count inductionHypothesis =>
      cases text with
      | nil => simp
      | cons char rest =>
          rw [List.take_succ_cons, List.mem_cons, not_or] at noFeed
          obtain ⟨take_eq, drop_eq⟩ := inductionHypothesis noFeed.2
          rw [addReturns_cons (Ne.symm noFeed.1)]
          simp [take_eq, drop_eq]

/-- Deleting the carriage returns undoes adding them. -/
theorem deleteReturns_addReturns (text : List Char) :
    deleteReturns (addReturns text) = deleteReturns text := by
  induction text with
  | nil => rfl
  | cons char rest inductionHypothesis =>
      by_cases isFeed : char = '\n'
      · rw [isFeed, addReturns_feed]
        simpa [deleteReturns] using inductionHypothesis
      · rw [addReturns_cons isFeed]
        simp only [deleteReturns, List.filter_cons] at inductionHypothesis ⊢
        rw [inductionHypothesis]

end Text
end Baseline
