/-!
# Answers

An answer is a value or an error.  A computation made of two steps answers with
a value when both do, and with an error when the first of them to be reached
does.
-/

namespace Baseline
namespace Answer

variable
  {ε α β : Type}
  {answer : Except ε α}
  {next : α → Except ε β}

theorem ok_bind (value : α) : Except.ok value >>= next = next value := rfl

theorem map_eq_ok_iff {f : α → β} {value : β} :
    answer.map f = .ok value ↔ ∃ first, answer = .ok first ∧ f first = value := by
  cases answer <;> simp [Except.map]

theorem map_eq_error_iff {f : α → β} {error : ε} :
    answer.map f = .error error ↔ answer = .error error := by
  cases answer <;> simp [Except.map]

theorem bind_eq_ok_iff {value : β} :
    answer >>= next = .ok value ↔ ∃ first, answer = .ok first ∧ next first = .ok value := by
  cases answer <;> simp [bind, Except.bind]

theorem bind_eq_error_iff {error : ε} :
    answer >>= next = .error error ↔
      answer = .error error ∨ ∃ first, answer = .ok first ∧ next first = .error error := by
  cases answer <;> simp [bind, Except.bind]

/-- The answer is an error. -/
def Fails (answer : Except ε α) : Prop :=
  ∃ error, answer = .error error

theorem fails_iff_forall_ne_ok : Fails answer ↔ ∀ value, answer ≠ .ok value := by
  cases answer <;> simp [Fails]

end Answer
end Baseline
