import Baseline.RunError
import Baseline.FileAccess

/-!
# Running actions

What composed actions give and in which state they leave the files: an action
that fails keeps the state it has reached, and nothing after it is run.  `Ensures`
says of an action what its result and the state after it have in common, whatever
the result is.
-/

namespace Baseline
namespace Action

variable {σ ε ε' α β : Type}

theorem run_pure (value : α) (state : σ) :
    (pure value : ExceptT ε (StateM σ) α).run state = (.ok value, state) := rfl

theorem run_get (state : σ) :
    (get : ExceptT ε (StateM σ) σ).run state = (.ok state, state) := rfl

/-- An answer leaves the state alone. -/
theorem run_answer (answer : Except ε α) (state : σ) :
    (liftM answer : ExceptT ε (StateM σ) α).run state = (answer, state) := by
  cases answer <;> rfl

/-- What follows an action is run in the state it leaves. -/
theorem run_bind_of_ok
    {action : ExceptT ε (StateM σ) α}
    {next : α → ExceptT ε (StateM σ) β}
    {state after : σ}
    {value : α}
    (ran : action.run state = (.ok value, after)) :
    (action >>= next).run state = (next value).run after := by
  change (match action.run state with
    | (result, after) => ExceptT.bindCont next result after) = _
  rw [ran]
  rfl

/-- What follows an action that fails is not run. -/
theorem run_bind_of_error
    {action : ExceptT ε (StateM σ) α}
    {next : α → ExceptT ε (StateM σ) β}
    {state after : σ}
    {error : ε}
    (ran : action.run state = (.error error, after)) :
    (action >>= next).run state = (.error error, after) := by
  change (match action.run state with
    | (result, after) => ExceptT.bindCont next result after) = _
  rw [ran]
  rfl

/-- Errors are told in other words, and the state is kept. -/
theorem run_adapt
    (retell : ε → ε')
    (action : ExceptT ε (StateM σ) α)
    (state : σ) :
    (ExceptT.adapt retell action).run state =
      ((action.run state).1.mapError retell, (action.run state).2) := rfl

theorem run_attempt_of_ok
    {operation : σ → Except FileError (α × σ)}
    {state after : σ}
    {value : α}
    (done : operation state = .ok (value, after)) :
    (FileAction.attempt operation).run state = (.ok value, after) := by
  change FileAction.attempt operation state = _
  rw [FileAction.attempt, done]

/-- An operation that is refused leaves the state as it was. -/
theorem run_attempt_of_error
    {operation : σ → Except FileError (α × σ)}
    {state : σ}
    {error : FileError}
    (refused : operation state = .error error) :
    (FileAction.attempt operation).run state = (.error error, state) := by
  change FileAction.attempt operation state = _
  rw [FileAction.attempt, refused]

/-- An action that succeeds needs no handling. -/
theorem run_tryCatch_of_ok
    {action : ExceptT ε (StateM σ) α}
    {handle : ε → ExceptT ε (StateM σ) α}
    {state after : σ}
    {value : α}
    (ran : action.run state = (.ok value, after)) :
    (tryCatch action handle).run state = (.ok value, after) := by
  change (match action.run state with
    | (result, after) =>
        (match result with
          | .ok value => pure (.ok value)
          | .error error => handle error : StateM σ (Except ε α)) after) = _
  rw [ran]
  rfl

/-- An error is handled in the state that the action leaves. -/
theorem run_tryCatch_of_error
    {action : ExceptT ε (StateM σ) α}
    {handle : ε → ExceptT ε (StateM σ) α}
    {state after : σ}
    {error : ε}
    (ran : action.run state = (.error error, after)) :
    (tryCatch action handle).run state = (handle error).run after := by
  change (match action.run state with
    | (result, after) =>
        (match result with
          | .ok value => pure (.ok value)
          | .error error => handle error : StateM σ (Except ε α)) after) = _
  rw [ran]
  rfl

/-! ## What an action ensures -/

/-- If something holds before the action, its result and the state after it are as
stated. -/
def Ensures
    (before : σ → Prop)
    (action : ExceptT ε (StateM σ) α)
    (after : Except ε α → σ → Prop) : Prop :=
  ∀ state, before state → after (action.run state).1 (action.run state).2

variable {before : σ → Prop}

/-- Answering and failing to answer leave the state alone. -/
theorem ensures_answer
    {answer : Except ε α}
    {after : Except ε α → σ → Prop}
    (answered : ∀ state, before state → after answer state) :
    Ensures before (liftM answer : ExceptT ε (StateM σ) α) after := by
  intro state holds
  rw [run_answer]
  exact answered state holds

theorem ensures_pure
    {value : α}
    {after : Except ε α → σ → Prop}
    (returned : ∀ state, before state → after (.ok value) state) :
    Ensures before (pure value) after :=
  returned

/-- What one action ensures is what the next one starts from, or it stays if the first
one fails. -/
theorem Ensures.bind
    {action : ExceptT ε (StateM σ) α}
    {next : α → ExceptT ε (StateM σ) β}
    {between : Except ε α → σ → Prop}
    {after : Except ε β → σ → Prop}
    (first : Ensures before action between)
    (failed : ∀ error state, between (.error error) state → after (.error error) state)
    (second : ∀ value, Ensures (between (.ok value)) (next value) after) :
    Ensures before (action >>= next) after := by
  intro state holds
  have reached := first state holds
  rcases ran : action.run state with ⟨result, middle⟩
  rw [ran] at reached
  cases result with
  | error error =>
      rw [run_bind_of_error ran]
      exact failed error middle reached
  | ok value =>
      rw [run_bind_of_ok ran]
      exact second value middle reached

theorem ensures_answer_bind
    {answer : Except ε α}
    {next : α → ExceptT ε (StateM σ) β}
    {after : Except ε β → σ → Prop}
    (failed : ∀ error state, before state → after (.error error) state)
    (second : ∀ value, Ensures before (next value) after) :
    Ensures before (liftM answer >>= next) after := by
  have answered : Ensures before (liftM answer : ExceptT ε (StateM σ) α) fun _ => before :=
    ensures_answer fun _ holds => holds
  exact answered.bind failed second

/-- What follows a look at the state is run in that state. -/
theorem ensures_get_bind
    {next : σ → ExceptT ε (StateM σ) β}
    {after : Except ε β → σ → Prop}
    (looked : ∀ state, Ensures before (next state) after) :
    Ensures before (get >>= next) after := by
  intro state holds
  rw [run_bind_of_ok (run_get state)]
  exact looked state state holds

/-- An action that is run under a condition only must keep what held before. -/
theorem Ensures.when_bind
    {action : ExceptT ε (StateM σ) Unit}
    {next : Unit → ExceptT ε (StateM σ) β}
    {after : Except ε β → σ → Prop}
    (condition : Prop)
    [Decidable condition]
    (first : Ensures before action fun _ => before)
    (failed : ∀ error state, before state → after (.error error) state)
    (second : Ensures before (next ()) after) :
    Ensures before (if condition then action >>= next else next ()) after := by
  split
  · exact first.bind failed fun () => second
  · exact second

theorem Ensures.adapt
    {retell : ε → ε'}
    {action : ExceptT ε (StateM σ) α}
    {after : Except ε' α → σ → Prop}
    (ensured : Ensures before action fun result => after (result.mapError retell)) :
    Ensures before (ExceptT.adapt retell action) after := by
  intro state holds
  rw [run_adapt]
  exact ensured state holds

end Action
end Baseline
