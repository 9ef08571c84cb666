import Baseline.Fault
import Baseline.Proofs.Compare.Comparison

/-!
# Stores with faults

What writing an artifact, removing one and reading a file do if some operations of a store
are made to fail.  A file that cannot be opened is left as it was, one that cannot be written
is left empty, and one that cannot be closed holds all that was written.  Reading a file also
fails if only closing it does.
-/

namespace Baseline
namespace Faulty

variable {system : Faulty Store} {path text : String} {error : FileError}

/-- The system with a file at a path. -/
def holding (system : Faulty Store) (path content : String) : Faulty Store :=
  { system with inner := system.inner.put (system.inner.resolve path) (.file content) }

/-- Why no file can be opened for writing at a path, if there is a reason. -/
def refusal? (system : Faulty Store) (path : String) : Option FileError :=
  (system.fault? .openWrite path).or (system.inner.refusal? path)

@[simp] theorem fault?_holding
    (system : Faulty Store)
    (operation : FaultyOperation)
    (path content other : String) :
    (system.holding path content).fault? operation other = system.fault? operation other := rfl

/-! ## Open files -/

theorem guardedAction_run_of_fault
    {α : Type}
    {operation : FaultyOperation}
    {action : FileAction Store α}
    (faulty : system.fault? operation path = some error) :
    (guardedAction operation path action).run system = (.error error, system) := by
  change guardedAction operation path action system = _
  rw [guardedAction, faulty]

theorem guardedAction_run_of_none
    {α : Type}
    {operation : FaultyOperation}
    {action : FileAction Store α}
    (sound : system.fault? operation path = none) :
    (guardedAction operation path action).run system =
      ((action.run system.inner).1, { system with inner := (action.run system.inner).2 }) := by
  change guardedAction operation path action system = _
  rw [guardedAction, sound]
  rfl

theorem removeFile_run_of_fault (faulty : system.fault? .removeFile path = some error) :
    (FileAccess.removeFile path : FileAction (Faulty Store) Unit).run system =
      (.error error, system) :=
  guardedAction_run_of_fault faulty

theorem removeFile_run_of_none (sound : system.fault? .removeFile path = none) :
    (FileAccess.removeFile path : FileAction (Faulty Store) Unit).run system =
      (((FileAccess.removeFile path : FileAction Store Unit).run system.inner).1,
        { system with
          inner := ((FileAccess.removeFile path : FileAction Store Unit).run system.inner).2 }) :=
  guardedAction_run_of_none sound

theorem openWrite_run_of_refused (refused : system.refusal? path = some error) :
    (FileAccess.openWrite path : FileAction (Faulty Store) _).run system =
      (.error error, system) := by
  cases faulty : system.fault? .openWrite path with
  | some reason =>
      rw [refusal?, faulty, Option.some_or] at refused
      exact (guardedAction_run_of_fault faulty).trans (by rw [Option.some.inj refused])
  | none =>
      rw [refusal?, faulty, Option.none_or] at refused
      have inner_run : (FileAccess.openWrite path : FileAction Store _).run system.inner =
          (.error error, system.inner) :=
        Action.run_attempt_of_error (by rw [Store.openWrite_eq, refused])
      refine (guardedAction_run_of_none faulty).trans ?_
      rw [Action.run_bind_of_error inner_run]

theorem openWrite_run_of_opened (opened : system.refusal? path = none) :
    (FileAccess.openWrite path : FileAction (Faulty Store) _).run system =
      (.ok ⟨path, (⟨system.inner.resolve path, ""⟩ : Store.Writer)⟩, system.holding path "") := by
  obtain ⟨sound, unrefused⟩ := Option.or_eq_none_iff.mp opened
  have inner_run : (FileAccess.openWrite path : FileAction Store _).run system.inner =
      (.ok (⟨system.inner.resolve path, ""⟩ : Store.Writer),
        system.inner.put (system.inner.resolve path) (.file "")) :=
    Action.run_attempt_of_ok (by rw [Store.openWrite_eq, unrefused])
  refine (guardedAction_run_of_none sound).trans ?_
  rw [Action.run_bind_of_ok inner_run]
  rfl

/-- A file that cannot be written keeps what was written before. -/
theorem writeAll_run_of_fault
    {rest : List String}
    (writer : Store.Writer)
    (faulty : system.fault? .write path = some error) :
    (Compare.writeAll (⟨path, writer⟩ : Opened Store.Writer) (text :: rest)).run system =
      (.error error, { system with inner := writer.commit system.inner }) := by
  have write_run : (FileAccess.write (⟨path, writer⟩ : Opened Store.Writer) text :
      FileAction (Faulty Store) _).run system = (.error error, system) :=
    guardedAction_run_of_fault faulty
  rw [Compare.writeAll, Action.run_bind_of_error]
  exact Action.run_tryCatch_of_error write_run

/-- If writing does not fail, all is written, also to a file that cannot be closed. -/
theorem writeAll_run_of_sound
    (sound : system.fault? .write path = none)
    (writer : Store.Writer)
    (texts : List String) :
    (Compare.writeAll (⟨path, writer⟩ : Opened Store.Writer) texts).run system =
      ((match system.fault? .close path with
        | some error => .error error
        | none => .ok ()),
        { system with inner := (texts.foldl Store.Writer.write writer).commit system.inner }) := by
  induction texts generalizing writer with
  | nil =>
      change FileAccess.closeWriter (⟨path, writer⟩ : Opened Store.Writer) system = _
      cases faulty : system.fault? .close path <;>
        simp only [FileAccess.closeWriter, faulty] <;> rfl
  | cons text rest inductionHypothesis =>
      have write_run : (FileAccess.write (⟨path, writer⟩ : Opened Store.Writer) text :
          FileAction (Faulty Store) _).run system =
          (.ok (⟨path, writer.write text⟩ : Opened Store.Writer), system) :=
        guardedAction_run_of_none sound
      rw [Compare.writeAll, Action.run_bind_of_ok (Action.run_tryCatch_of_ok write_run),
        inductionHypothesis]
      rfl

/-! ## Artifacts -/

section Artifacts

variable {rendering : String}

theorem writeArtifact_run_of_refused (refused : system.refusal? path = some error) :
    (Compare.writeArtifact path rendering).run system = (.error (.file path error), system) := by
  rw [Compare.writeArtifact, Action.run_adapt,
    Action.run_bind_of_error (openWrite_run_of_refused refused)]
  rfl

theorem writeArtifact_run_of_unwritten
    (opened : system.refusal? path = none)
    (faulty : system.fault? .write path = some error) :
    (Compare.writeArtifact path rendering).run system =
      (.error (.file path error), system.holding path "") := by
  have stillFaulty : (system.holding path "").fault? .write path = some error := faulty
  rw [Compare.writeArtifact, Action.run_adapt,
    Action.run_bind_of_ok (openWrite_run_of_opened opened), writeAll_run_of_fault _ stillFaulty]
  simp only [holding, Store.Writer.commit, Store.put_put]
  rfl

/-- Closing comes last, so its failure does not change what is written. -/
theorem writeArtifact_run_of_written
    (opened : system.refusal? path = none)
    (sound : system.fault? .write path = none) :
    (Compare.writeArtifact path rendering).run system =
      ((match system.fault? .close path with
        | some error => .error (.file path error)
        | none => .ok ()), system.holding path (rendering ++ "\n")) := by
  have stillSound : (system.holding path "").fault? .write path = none := sound
  have committed : ([rendering, "\n"].foldl Store.Writer.write
      ⟨system.inner.resolve path, ""⟩).commit (system.holding path "").inner =
        (system.holding path (rendering ++ "\n")).inner := by
    simp [Store.Writer.write, Store.Writer.commit, holding]
  rw [Compare.writeArtifact, Action.run_adapt,
    Action.run_bind_of_ok (openWrite_run_of_opened opened), writeAll_run_of_sound stillSound,
    committed, fault?_holding]
  cases system.fault? .close path <;> rfl

end Artifacts

/-! ## Reading -/

section Reading

variable {mode : ReadMode}

theorem joinLines_eq_inner
    (sound : system.fault? .read path = none)
    (fuel : Nat)
    (reader : Store.Reader) :
    Compare.joinLines system fuel (⟨path, reader⟩ : Opened Store.Reader) =
      Compare.joinLines system.inner fuel reader := by
  induction fuel generalizing reader with
  | zero => rfl
  | succ fuel inductionHypothesis =>
      have line_eq : FileAccess.readLine system (⟨path, reader⟩ : Opened Store.Reader) =
          (.ok reader.readLine.1, (⟨path, reader.readLine.2⟩ : Opened Store.Reader)) := by
        change system.guardedRead _ _ = _
        rw [guardedRead, sound]
        rfl
      rw [Compare.joinLines, Compare.joinLines, line_eq]
      simp only [inductionHypothesis]
      rfl

theorem readOpened_eq_inner
    (sound : system.fault? .read path = none)
    (reader : Store.Reader) :
    Compare.readOpened system mode (⟨path, reader⟩ : Opened Store.Reader) =
      Compare.readOpened system.inner mode reader := by
  cases mode with
  | verbatim =>
      change (system.guardedRead _ _).1 = _
      rw [guardedRead, sound]
      rfl
  | legacyLines => exact joinLines_eq_inner sound _ reader

/-- If opening and reading do not fail, a file is read as in the store inside, unless it
cannot be closed. -/
theorem readText_eq
    (openSound : system.fault? .openRead path = none)
    (readSound : system.fault? .read path = none) :
    Compare.readText system mode path =
      (Compare.readText system.inner mode path).bind fun text =>
        system.guarded .close path (.ok text) := by
  have opened : FileAccess.openRead system path =
      (system.inner.openRead path).map fun inner => (⟨path, inner⟩ : Opened Store.Reader) := by
    change system.guarded .openRead path _ = _
    rw [guarded, openSound]
    rfl
  rw [Compare.readText, opened, Compare.readText_eq]
  cases system.inner.openRead path with
  | error error => rfl
  | ok reader =>
      change (Compare.readOpened system mode (⟨path, reader⟩ : Opened Store.Reader) >>= _) = _
      rw [readOpened_eq_inner readSound, Compare.readOpened_eq]
      change (system.guarded .close path _ >>= _) = system.guarded .close path _
      rw [guarded, guarded]
      cases system.fault? .close path <;> rfl

/-! ## Faults of one file -/

/-- Only opening, writing and closing the file at the path are made to fail. -/
def FailsWriting (path : String) (faults : List Fault) : Prop :=
  ∀ fault ∈ faults,
    fault.path = path ∧ fault.operation ∈ [FaultyOperation.openWrite, .write, .close]

instance (path : String) (faults : List Fault) : Decidable (FailsWriting path faults) :=
  inferInstanceAs (Decidable (∀ fault ∈ faults, _))

variable {faults : List Fault} {other : String} {operation : FaultyOperation}

theorem FailsWriting.fault?_eq_none
    (fails : FailsWriting path faults)
    (store : Store)
    (free : other ≠ path ∨ operation ∉ [FaultyOperation.openWrite, .write, .close]) :
    (⟨store, faults⟩ : Faulty Store).fault? operation other = none := by
  rw [fault?, Option.map_eq_none_iff, List.find?_eq_none]
  intro fault member applies
  obtain ⟨operation_eq, path_eq⟩ := of_decide_eq_true applies
  obtain ⟨here, writing⟩ := fails fault member
  rcases free with elsewhere | harmless
  · exact elsewhere (path_eq.symm.trans here)
  · exact harmless (operation_eq ▸ writing)

theorem FailsWriting.present_eq
    (fails : FailsWriting path faults)
    (store : Store)
    (other : String) :
    FileAccess.present (⟨store, faults⟩ : Faulty Store) other = store.present other := by
  change ((fault? _ .present other).isNone && _) = _
  rw [fails.fault?_eq_none store (.inr (by decide))]
  rfl

theorem FailsWriting.readText_eq
    (fails : FailsWriting path faults)
    (store : Store)
    (mode : ReadMode)
    (other : String) :
    Compare.readText (⟨store, faults⟩ : Faulty Store) mode other =
      (Compare.readText store mode other).bind fun text =>
        (⟨store, faults⟩ : Faulty Store).guarded .close other (.ok text) :=
  Faulty.readText_eq (fails.fault?_eq_none store (.inr (by decide)))
    (fails.fault?_eq_none store (.inr (by decide)))

/-- Other files are read as in the store inside. -/
theorem FailsWriting.readSource_eq
    (fails : FailsWriting path faults)
    (store : Store)
    (mode : ReadMode)
    (elsewhere : other ≠ path) :
    Compare.readSource (⟨store, faults⟩ : Faulty Store) mode other =
      Compare.readSource store mode other := by
  have read_eq : Compare.readText (⟨store, faults⟩ : Faulty Store) mode other =
      Compare.readText store mode other := by
    rw [fails.readText_eq]
    simp only [guarded, fails.fault?_eq_none store (.inl elsewhere)]
    cases Compare.readText store mode other <;> rfl
  rw [Compare.readSource, Compare.readSource, fails.present_eq, read_eq]
  rfl

/-- A reference that is taken for missing in the store inside is taken for missing, or cannot
be read. -/
theorem FailsWriting.readReference_eq
    {store : Store}
    (fails : FailsWriting path faults)
    (missing : Compare.readReference store mode path = .ok none) :
    Compare.readReference (⟨store, faults⟩ : Faulty Store) mode path = .ok none ∨
      ∃ error, Compare.readReference (⟨store, faults⟩ : Faulty Store) mode path = .error error := by
  cases read : Compare.readReference (⟨store, faults⟩ : Faulty Store) mode path with
  | error error => exact .inr ⟨error, rfl⟩
  | ok reference =>
      left
      rw [← missing, ← read]
      unfold Compare.readReference at read ⊢
      rw [fails.present_eq, fails.readText_eq] at read ⊢
      cases closing : (⟨store, faults⟩ : Faulty Store).fault? .close path with
      | none =>
          simp only [guarded, closing]
          cases Compare.readText store mode path <;> rfl
      | some error =>
          -- A file that is there is not closed, so there is none.
          simp only [guarded, closing] at read
          by_cases there : store.present path
          · rw [if_pos there] at read
            cases held : Compare.readText store mode path <;> rw [held] at read <;> cases read
          · have absent : ¬FileAccess.present store path = true := there
            rw [if_neg there, if_neg absent]

/-- Removing an artifact of an earlier run does not fail on purpose. -/
theorem FailsWriting.removeStale_run
    (fails : FailsWriting path faults)
    (store : Store)
    (other : String) :
    (Compare.removeStale other : RunAction (Faulty Store) Unit).run ⟨store, faults⟩ =
      match Compare.withoutStale store other with
      | .ok after => (.ok (), ⟨after, faults⟩)
      | .error error => (.error error, ⟨store, faults⟩) := by
  have sound : (⟨store, faults⟩ : Faulty Store).fault? .removeFile other = none :=
    fails.fault?_eq_none store (.inr (by decide))
  rw [Compare.removeStale, Action.run_bind_of_ok (Action.run_get _), fails.present_eq,
    Compare.withoutStale]
  by_cases there : store.present other
  · rw [if_pos there, if_pos there, Action.run_adapt, removeFile_run_of_none sound]
    cases removing : store.removeFile other with
    | ok after =>
        rw [Compare.removeFile_run_of_ok removing]
        rfl
    | error error =>
        rw [Compare.removeFile_run_of_error removing]
        rfl
  · rw [if_neg there, if_neg there]
    rfl

end Reading

end Faulty
end Baseline
