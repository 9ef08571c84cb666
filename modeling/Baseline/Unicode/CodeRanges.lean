/-!
# Ranges of code points

A set of characters is given by ascending, disjoint ranges of code points.
Looking a character up walks the ranges and stops at the first one that does
not end below it.
-/

namespace Baseline
namespace Unicode

/-- Closed ranges of code points, ascending and disjoint. -/
abbrev CodeRanges := List (Nat × Nat)

namespace CodeRanges

/-- Ascending disjoint ranges hold a code point when the first range that does
not end below it holds it. -/
def holds : CodeRanges → Nat → Bool
  | [], _ => false
  | (first, last) :: rest, code =>
      if code ≤ last then decide (first ≤ code) else holds rest code

@[simp] theorem holds_nil (code : Nat) : holds [] code = false := rfl

@[simp] theorem holds_cons
    (first last : Nat)
    (rest : CodeRanges)
    (code : Nat) :
    holds ((first, last) :: rest) code =
      if code ≤ last then decide (first ≤ code) else holds rest code := rfl

/-- The character's code point lies in one of the ranges. -/
def contains (ranges : CodeRanges) (char : Char) : Bool :=
  ranges.holds char.toNat

/-- Only a range that holds the code point can make the lookup succeed. -/
theorem exists_of_holds
    {ranges : CodeRanges}
    {code : Nat}
    (found : ranges.holds code = true) :
    ∃ range ∈ ranges, range.1 ≤ code ∧ code ≤ range.2 := by
  induction ranges with
  | nil => simp at found
  | cons head rest inductionHypothesis =>
      obtain ⟨first, last⟩ := head
      by_cases below : code ≤ last
      · simp only [holds_cons, below, if_true, decide_eq_true_eq] at found
        exact ⟨(first, last), by simp, found, below⟩
      · simp only [holds_cons, below, if_false] at found
        obtain ⟨range, member, bounds⟩ := inductionHypothesis found
        exact ⟨range, List.mem_cons_of_mem _ member, bounds⟩

end CodeRanges
end Unicode
end Baseline
