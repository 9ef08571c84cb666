import Baseline.Proofs.Expected.Naming

/-!
# The first entry that names a source

The known entries come before the pending ones, and a mismatch counts by the first of all
entries that names its source: as known if that entry stands among the known ones, as pending
otherwise (`IsFirst.classify_eq`).  Without such an entry it is a regression
(`classify_eq_regression_iff`).
-/

namespace Baseline
namespace Expected

/-- Of all entries, known ones before pending ones, the one at an index is the first that names
the source at a path. -/
structure IsFirst
    (expected : Expected)
    (path : String)
    (index : Nat)
    (entry : MismatchEntry) : Prop where
  /-- The entry stands at the index. -/
  found : (expected.known ++ expected.pending)[index]? = some entry
  /-- It names the source. -/
  named : names expected.root path entry
  /-- No entry before it does. -/
  earliest : ∀ earlier < index, ∀ other,
    (expected.known ++ expected.pending)[earlier]? = some other →
      ¬names expected.root path other

variable
  {expected : Expected}
  {path : String}
  {index : Nat}
  {entry : MismatchEntry}

theorem entry?_eq_some_iff :
    expected.entry? path = some entry ↔ ∃ index, expected.IsFirst path index entry := by
  unfold entry?
  rw [List.find?_eq_some_iff_getElem]
  constructor
  · rintro ⟨named, index, inside, rfl, earliest⟩
    refine ⟨index, List.getElem?_eq_getElem inside, named, fun earlier before other there => ?_⟩
    obtain ⟨_, rfl⟩ := List.getElem?_eq_some_iff.mp there
    simpa using earliest earlier before
  · rintro ⟨index, found, named, earliest⟩
    obtain ⟨inside, rfl⟩ := List.getElem?_eq_some_iff.mp found
    refine ⟨named, index, inside, rfl, fun earlier before => ?_⟩
    simpa using earliest earlier before _ (List.getElem?_eq_getElem (before.trans inside))

theorem entry?_eq_none_iff :
    expected.entry? path = none ↔
      ∀ entry ∈ expected.known ++ expected.pending, ¬names expected.root path entry :=
  List.find?_eq_none

/-- A mismatch is a regression exactly if no entry is found for its source. -/
theorem classify_eq_regression_iff :
    expected.classify path = .regression ↔ expected.entry? path = none := by
  rw [entry?_eq_none_iff, ← not_iff_not, ← ne_eq, classify_ne_regression_iff]
  push Not
  rfl

/-- Where the first entry stands decides how a mismatch counts. -/
theorem IsFirst.classify_eq (first : expected.IsFirst path index entry) :
    expected.classify path = if index < expected.known.length then .known else .pending := by
  obtain ⟨found, named, earliest⟩ := first
  by_cases listed : index < expected.known.length
  · rw [List.getElem?_append_left listed] at found
    have known : expected.known.any (names expected.root path) = true :=
      List.any_eq_true.mpr ⟨entry, List.mem_of_getElem? found, named⟩
    rw [classify, if_pos known, if_pos listed]
  · have unknown : ¬expected.known.any (names expected.root path) = true := by
      rw [List.any_eq_true]
      rintro ⟨other, member, otherNamed⟩
      obtain ⟨earlier, inside, rfl⟩ := List.mem_iff_getElem.mp member
      refine earliest earlier (by omega) _ ?_ otherNamed
      rw [List.getElem?_append_left inside, List.getElem?_eq_getElem inside]
    rw [List.getElem?_append_right (Nat.le_of_not_lt listed)] at found
    have pending : expected.pending.any (names expected.root path) = true :=
      List.any_eq_true.mpr ⟨entry, List.mem_of_getElem? found, named⟩
    rw [classify, if_neg unknown, if_pos pending, if_neg listed]

theorem IsFirst.classify_eq_known_iff (first : expected.IsFirst path index entry) :
    expected.classify path = .known ↔ index < expected.known.length := by
  rw [first.classify_eq, ite_eq_left_iff]
  simp

theorem IsFirst.classify_eq_pending_iff (first : expected.IsFirst path index entry) :
    expected.classify path = .pending ↔ expected.known.length ≤ index := by
  rw [first.classify_eq, ite_eq_right_iff, ← Nat.not_lt]
  simp

end Expected
end Baseline
