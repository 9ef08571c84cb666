import Baseline.Proofs.Compare.Comparison

/-!
# What a comparison can touch

In any file system, also in one that fails: a comparison removes the actual artifact,
writes it, or writes the reference, and does nothing else to files.  So what these
keep is kept by a comparison, whichever way it ends.
-/

namespace Baseline
namespace Compare

open Baseline.Action (Ensures)

variable
  {σ : Type}
  [FileAccess σ]
  {kept : σ → Prop}
  {after : Except RunError Outcome → σ → Prop}

theorem removeStale_ensures
    {path : String}
    (removing : Ensures kept (FileAccess.removeFile path) fun _ => kept) :
    Ensures kept (removeStale path) fun _ => kept := by
  refine Action.ensures_get_bind fun state => ?_
  split
  · exact removing.adapt
  · exact Action.ensures_pure fun _ holds => holds

/-- Settling a source writes the reference and nothing more, or at most the actual
artifact. -/
theorem settle_ensures
    {referencePath actualPath rendering : String}
    (stays : ∀ result state, kept state → after result state)
    (creating : Ensures kept (writeArtifact referencePath rendering) fun result =>
      after (result.map fun () => .created referencePath))
    (reporting : Ensures kept (writeArtifact actualPath rendering) fun result =>
      after (result.map fun () => .mismatched actualPath))
    (reference : Option String) :
    Ensures kept (settle referencePath actualPath rendering reference) after := by
  cases reference with
  | none =>
      refine creating.bind ?_ ?_
      · exact fun error state failed => failed
      · exact fun () => Action.ensures_pure fun state written => written
  | some expected =>
      rw [settle]
      split
      · exact Action.ensures_pure fun state holds => stays _ state holds
      · refine reporting.bind ?_ ?_
        · exact fun error state failed => failed
        · exact fun () => Action.ensures_pure fun state written => written

/-- What removing the actual artifact keeps is kept by a comparison, unless it writes the
reference or the actual artifact. -/
theorem compareFile_ensures
    {options : CompareOptions}
    {path : String}
    (parser : Parser)
    (stays : ∀ result state, kept state → after result state)
    (removing : Ensures kept (removeStale (options.actualPath path)) fun _ => kept)
    (creating : ∀ rendering,
      Ensures kept (writeArtifact (options.referencePath path) rendering) fun result =>
        after (result.map fun () => .created (options.referencePath path)))
    (reporting : ∀ rendering,
      Ensures kept (writeArtifact (options.actualPath path) rendering) fun result =>
        after (result.map fun () => .mismatched (options.actualPath path))) :
    Ensures kept (compareFile parser options path) after := by
  have fails (error : RunError) (state : σ) (holds : kept state) : after (.error error) state :=
    stays _ state holds
  refine Action.ensures_answer_bind fails fun () => ?_
  refine removing.when_bind _ fails ?_
  refine Action.ensures_get_bind fun before => ?_
  dsimp only
  split
  · exact Action.ensures_pure fun state holds => stays _ state holds
  · refine Action.ensures_answer_bind fails fun rendering => ?_
    refine Action.ensures_get_bind fun before => ?_
    exact Action.ensures_answer_bind fails
      (settle_ensures stays (creating rendering) (reporting rendering))

/-! ## How a comparison fails -/

section Failing

variable (parser : Parser) (options : CompareOptions) (path : String)

/-- The actual artifact of an earlier run is removed, if the options ask for that. -/
def Tidies (system tidy : σ) : Prop :=
  if options.cleanStaleActuals then
    (removeStale (options.actualPath path)).run system = (.ok (), tidy)
  else tidy = system

/-- The source is read and has a rendering. -/
def Renders (system : σ) (rendering : String) : Prop :=
  readSource system options.readMode path ≠ "" ∧
    renderSource parser options.indentWidth path (readSource system options.readMode path) =
      .ok rendering

/-- How a comparison fails, and the state in which it leaves the files then. -/
inductive Fails (system : σ) : RunError → σ → Prop
  | clash {error : RunError}
      (clashing : checkExtensions options.extensions = .error error) :
      Fails system error system
  | untidy {error : RunError} {last : σ}
      (distinct : checkExtensions options.extensions = .ok ())
      (stuck : (removeStale (options.actualPath path)).run system = (.error error, last)) :
      Fails system error last
  | refused {error : RunError} {tidy : σ}
      (distinct : checkExtensions options.extensions = .ok ())
      (tidies : Tidies options path system tidy)
      (refusal : renderSource parser options.indentWidth path
        (readSource tidy options.readMode path) = .error error) :
      Fails system error tidy
  | unreadable {rendering : String} {error : RunError} {tidy : σ}
      (distinct : checkExtensions options.extensions = .ok ())
      (tidies : Tidies options path system tidy)
      (renders : Renders parser options path tidy rendering)
      (unread : readReference tidy options.readMode (options.referencePath path) = .error error) :
      Fails system error tidy
  | unsettled {rendering : String} {reference : Option String} {error : RunError} {tidy last : σ}
      (distinct : checkExtensions options.extensions = .ok ())
      (tidies : Tidies options path system tidy)
      (renders : Renders parser options path tidy rendering)
      (read : readReference tidy options.readMode (options.referencePath path) = .ok reference)
      (unwritten : (settle (options.referencePath path) (options.actualPath path) rendering
        reference).run tidy = (.error error, last)) :
      Fails system error last

variable {parser options path} {system tidy last : σ} {error : RunError}

theorem Fails.of_settleSource
    (distinct : checkExtensions options.extensions = .ok ())
    (tidies : Tidies options path system tidy)
    (failed : (settleSource parser options path).run tidy = (.error error, last)) :
    Fails parser options path system error last := by
  by_cases empty : readSource tidy options.readMode path = ""
  · rw [settleSource_run_of_empty empty] at failed
    cases failed
  rw [settleSource_run_of_nonempty empty] at failed
  cases renders : renderSource parser options.indentWidth path
      (readSource tidy options.readMode path) with
  | error refusal =>
      rw [renders, Action.run_bind_of_error (Action.run_answer _ tidy)] at failed
      cases failed
      exact .refused distinct tidies renders
  | ok rendering =>
      rw [renders, Action.run_bind_of_ok (Action.run_answer _ tidy),
        Action.run_bind_of_ok (Action.run_get tidy)] at failed
      cases read : readReference tidy options.readMode (options.referencePath path) with
      | error unread =>
          rw [read, Action.run_bind_of_error (Action.run_answer _ tidy)] at failed
          cases failed
          exact .unreadable distinct tidies ⟨empty, renders⟩ read
      | ok reference =>
          rw [read, Action.run_bind_of_ok (Action.run_answer _ tidy)] at failed
          exact .unsettled distinct tidies ⟨empty, renders⟩ read failed

theorem compareFile_fails
    (failed : (compareFile parser options path).run system = (.error error, last)) :
    Fails parser options path system error last := by
  rw [compareFile_eq] at failed
  cases checked : checkExtensions options.extensions with
  | error clash =>
      rw [checked, Action.run_bind_of_error (Action.run_answer _ system)] at failed
      cases failed
      exact .clash checked
  | ok =>
      rw [checked, Action.run_bind_of_ok (Action.run_answer _ system)] at failed
      by_cases clean : options.cleanStaleActuals
      · simp only [if_pos clean] at failed
        rcases removing : (removeStale (options.actualPath path)).run system with
          ⟨stuck | _, tidy⟩
        · rw [Action.run_bind_of_error removing] at failed
          cases failed
          exact .untidy checked removing
        · rw [Action.run_bind_of_ok removing] at failed
          exact .of_settleSource checked (by rwa [Tidies, if_pos clean]) failed
      · simp only [if_neg clean] at failed
        exact .of_settleSource checked (by rw [Tidies, if_neg clean]) failed

end Failing

end Compare
end Baseline
