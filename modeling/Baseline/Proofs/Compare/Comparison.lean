import Baseline.Proofs.Action
import Baseline.Proofs.Compare.Reading

/-!
# One comparison in a store

`Comparison` lists what comparing one source can do to a store and which result
goes with it; `compareFile_run_eq_iff` says that nothing else happens.  The
artifact of an earlier run is removed first (`tidied`), then the source is settled
(`Settlement`): only the reference or the actual artifact is written, and each of
them in one case only.
-/

namespace Baseline

/-- The path of the reference of a source. -/
def CompareOptions.referencePath (options : CompareOptions) (path : String) : String :=
  Path.artifact path options.extensions.source options.extensions.reference

/-- The path of the actual artifact of a source. -/
def CompareOptions.actualPath (options : CompareOptions) (path : String) : String :=
  Path.artifact path options.extensions.source options.extensions.actual

namespace Compare

variable {store after : Store} {path content : String}

/-! ## Writing and removing -/

theorem writeArtifact_run_of_ok
    {rendering : String}
    (written : store.writeFile path (rendering ++ "\n") = .ok after) :
    (writeArtifact path rendering : RunAction Store Unit).run store = (.ok (), after) := by
  unfold Store.writeFile at written
  split at written
  next writer opened opening =>
      have open_run : (FileAccess.openWrite path : FileAction Store _).run store =
          (.ok writer, opened) :=
        Action.run_attempt_of_ok opening
      rw [writeArtifact, Action.run_adapt, Action.run_bind_of_ok open_run]
      change (Except.ok (), ((writer.write rendering).write "\n").commit opened) = _
      rw [← Except.ok.inj written, Store.Writer.write, Store.Writer.write, Store.Writer.write,
        String.append_assoc]
  next => cases written

theorem writeArtifact_run_of_error
    {rendering : String}
    {error : FileError}
    (refused : store.writeFile path (rendering ++ "\n") = .error error) :
    (writeArtifact path rendering : RunAction Store Unit).run store =
      (.error (.file path error), store) := by
  unfold Store.writeFile at refused
  split at refused
  next => cases refused
  next error' opening =>
      have open_run : (FileAccess.openWrite path : FileAction Store _).run store =
          (.error error', store) :=
        Action.run_attempt_of_error opening
      rw [writeArtifact, Action.run_adapt, Action.run_bind_of_error open_run,
        Except.error.inj refused]
      rfl

/-- The store without the artifact of an earlier run, if there is one. -/
def withoutStale (store : Store) (path : String) : Except RunError Store :=
  if store.present path then
    match store.removeFile path with
    | .ok after => .ok after
    | .error error => .error (.file path error)
  else .ok store

theorem removeFile_run_of_ok (removing : store.removeFile path = .ok after) :
    (FileAccess.removeFile path : FileAction Store Unit).run store = (.ok (), after) :=
  Action.run_attempt_of_ok (by rw [removing]; rfl)

theorem removeFile_run_of_error
    {error : FileError}
    (refused : store.removeFile path = .error error) :
    (FileAccess.removeFile path : FileAction Store Unit).run store = (.error error, store) :=
  Action.run_attempt_of_error (by rw [refused]; rfl)

theorem removeStale_run (store : Store) (path : String) :
    (removeStale path : RunAction Store Unit).run store =
      match withoutStale store path with
      | .ok after => (.ok (), after)
      | .error error => (.error error, store) := by
  rw [removeStale, Action.run_bind_of_ok (Action.run_get store), withoutStale]
  by_cases there : store.present path
  · have removed : FileAccess.present store path = true := there
    rw [if_pos there, if_pos removed, Action.run_adapt]
    cases removing : store.removeFile path with
    | ok after =>
        rw [removeFile_run_of_ok removing]
        rfl
    | error error =>
        rw [removeFile_run_of_error removing]
        rfl
  · have kept : ¬FileAccess.present store path = true := there
    rw [if_neg there, if_neg kept]
    rfl

/-! ## The cases of a comparison -/

section Cases

variable (parser : Parser) (options : CompareOptions) (path : String)

/-- The store in which a source is settled: without the artifact of an earlier
run, if the options ask for that. -/
def tidied (store : Store) : Except RunError Store :=
  if options.cleanStaleActuals then withoutStale store (options.actualPath path) else .ok store

/-- The source is read in a store and has a rendering. -/
structure Rendered (store : Store) (rendering : String) : Prop where
  /-- There is something to parse. -/
  nonempty : readSource store options.readMode path ≠ ""
  /-- The rendering is the canonical text of the value that is parsed. -/
  renders :
    ∃ value, parser.parse (readSource store options.readMode path) = .value value ∧
      rendering = value.canonicalize options.indentWidth

/-- What settling a source does to a store. -/
inductive Settlement (store : Store) : Except RunError Outcome → Store → Prop
  | skipped
      (empty : readSource store options.readMode path = "") :
      Settlement store (.ok .skipped) store
  | refused {error : RunError}
      (nonempty : readSource store options.readMode path ≠ "")
      (refusal : renderSource parser options.indentWidth path
        (readSource store options.readMode path) = .error error) :
      Settlement store (.error error) store
  | unreadable {rendering : String} {error : RunError}
      (rendered : Rendered parser options path store rendering)
      (unread : readReference store options.readMode (options.referencePath path) = .error error) :
      Settlement store (.error error) store
  | created {rendering : String} {after : Store}
      (rendered : Rendered parser options path store rendering)
      (missing : readReference store options.readMode (options.referencePath path) = .ok none)
      (written : store.writeFile (options.referencePath path) (rendering ++ "\n") = .ok after) :
      Settlement store (.ok (.created (options.referencePath path))) after
  | uncreated {rendering : String} {error : FileError}
      (rendered : Rendered parser options path store rendering)
      (missing : readReference store options.readMode (options.referencePath path) = .ok none)
      (unwritten : store.writeFile (options.referencePath path) (rendering ++ "\n") =
        .error error) :
      Settlement store (.error (.file (options.referencePath path) error)) store
  | passed {rendering : String}
      (rendered : Rendered parser options path store rendering)
      (equal : readReference store options.readMode (options.referencePath path) =
        .ok (some (Text.stripLineBreaks rendering))) :
      Settlement store (.ok .passed) store
  | mismatched {rendering expected : String} {after : Store}
      (rendered : Rendered parser options path store rendering)
      (recorded : readReference store options.readMode (options.referencePath path) =
        .ok (some expected))
      (different : expected ≠ Text.stripLineBreaks rendering)
      (written : store.writeFile (options.actualPath path) (rendering ++ "\n") = .ok after) :
      Settlement store (.ok (.mismatched (options.actualPath path))) after
  | unreported {rendering expected : String} {error : FileError}
      (rendered : Rendered parser options path store rendering)
      (recorded : readReference store options.readMode (options.referencePath path) =
        .ok (some expected))
      (different : expected ≠ Text.stripLineBreaks rendering)
      (unwritten : store.writeFile (options.actualPath path) (rendering ++ "\n") = .error error) :
      Settlement store (.error (.file (options.actualPath path) error)) store

/-- What comparing a source does to a store. -/
inductive Comparison (store : Store) : Except RunError Outcome → Store → Prop
  | clash {error : RunError}
      (clashing : checkExtensions options.extensions = .error error) :
      Comparison store (.error error) store
  | untidy {error : RunError}
      (distinct : checkExtensions options.extensions = .ok ())
      (stuck : tidied options path store = .error error) :
      Comparison store (.error error) store
  | settled {tidy after : Store} {result : Except RunError Outcome}
      (distinct : checkExtensions options.extensions = .ok ())
      (removed : tidied options path store = .ok tidy)
      (settlement : Settlement parser options path tidy result after) :
      Comparison store result after

/-- What is done to files when a source is settled. -/
def settleSource {σ : Type} [FileAccess σ] : RunAction σ Outcome := do
  let text := readSource (← get) options.readMode path
  if text.isEmpty then return .skipped
  let rendering ← renderSource parser options.indentWidth path text
  let reference ← readReference (← get) options.readMode (options.referencePath path)
  settle (options.referencePath path) (options.actualPath path) rendering reference

theorem compareFile_eq {σ : Type} [FileAccess σ] :
    (compareFile parser options path : RunAction σ Outcome) =
      (do
        checkExtensions options.extensions
        if options.cleanStaleActuals then removeStale (options.actualPath path)
        settleSource parser options path) := rfl

end Cases

variable {parser : Parser} {options : CompareOptions} {result : Except RunError Outcome}

theorem renderSource_eq_ok_iff {indent : Nat} {text rendering : String} :
    renderSource parser indent path text = .ok rendering ↔
      ∃ value, parser.parse text = .value value ∧ rendering = value.canonicalize indent := by
  rw [renderSource]
  cases parser.parse text with
  | value value => simp [eq_comm]
  | refused failure => simp
  | unserializable reason => simp

section AnySystem

variable {σ : Type} [FileAccess σ] {system : σ}

theorem settleSource_run_of_empty
    (empty : readSource system options.readMode path = "") :
    (settleSource parser options path).run system = (.ok .skipped, system) := by
  rw [settleSource, Action.run_bind_of_ok (Action.run_get system)]
  simp only [empty]
  rw [if_pos (by decide), Action.run_pure]

theorem settleSource_run_of_nonempty
    (nonempty : readSource system options.readMode path ≠ "") :
    (settleSource parser options path).run system =
      (do
        let rendering ← renderSource parser options.indentWidth path
          (readSource system options.readMode path)
        let reference ← readReference (← get) options.readMode (options.referencePath path)
        settle (options.referencePath path) (options.actualPath path) rendering reference :
        RunAction σ Outcome).run system := by
  have notEmpty : ¬(readSource system options.readMode path).isEmpty = true := by
    simpa using nonempty
  rw [settleSource, Action.run_bind_of_ok (Action.run_get system)]
  simp only []
  rw [if_neg notEmpty]

end AnySystem

theorem settleSource_run_of_rendered
    {rendering : String}
    (rendered : Rendered parser options path store rendering) :
    (settleSource parser options path).run store =
      (do
        let reference ← readReference store options.readMode (options.referencePath path)
        settle (options.referencePath path) (options.actualPath path) rendering reference :
        RunAction Store Outcome).run store := by
  rw [settleSource_run_of_nonempty rendered.nonempty,
    renderSource_eq_ok_iff.mpr rendered.renders,
    Action.run_bind_of_ok (Action.run_answer _ store),
    Action.run_bind_of_ok (Action.run_get store)]

theorem settle_run_none
    {referencePath actualPath rendering : String} :
    (settle referencePath actualPath rendering none).run store =
      (do
        writeArtifact referencePath rendering
        return .created referencePath : RunAction Store Outcome).run store := rfl

theorem settle_run_of_eq
    {referencePath actualPath rendering : String} :
    (settle referencePath actualPath rendering (some (Text.stripLineBreaks rendering))).run store =
      (.ok .passed, store) := by
  rw [settle, if_pos rfl, Action.run_pure]

theorem settle_run_of_ne
    {referencePath actualPath rendering expected : String}
    (different : expected ≠ Text.stripLineBreaks rendering) :
    (settle referencePath actualPath rendering (some expected)).run store =
      (do
        writeArtifact actualPath rendering
        return .mismatched actualPath : RunAction Store Outcome).run store := by
  rw [settle, if_neg different]

/-- Settling a source comes to what a settlement says. -/
theorem Settlement.run_eq
    (settlement : Settlement parser options path store result after) :
    (settleSource parser options path).run store = (result, after) := by
  cases settlement with
  | skipped empty => exact settleSource_run_of_empty empty
  | refused nonempty refusal =>
      rw [settleSource_run_of_nonempty nonempty, refusal,
        Action.run_bind_of_error (Action.run_answer _ store)]
  | unreadable rendered unread =>
      rw [settleSource_run_of_rendered rendered, unread,
        Action.run_bind_of_error (Action.run_answer _ store)]
  | created rendered missing written =>
      rw [settleSource_run_of_rendered rendered, missing,
        Action.run_bind_of_ok (Action.run_answer _ store), settle_run_none,
        Action.run_bind_of_ok (writeArtifact_run_of_ok written), Action.run_pure]
  | uncreated rendered missing unwritten =>
      rw [settleSource_run_of_rendered rendered, missing,
        Action.run_bind_of_ok (Action.run_answer _ store), settle_run_none,
        Action.run_bind_of_error (writeArtifact_run_of_error unwritten)]
  | passed rendered equal =>
      rw [settleSource_run_of_rendered rendered, equal,
        Action.run_bind_of_ok (Action.run_answer _ store), settle_run_of_eq]
  | mismatched rendered recorded different written =>
      rw [settleSource_run_of_rendered rendered, recorded,
        Action.run_bind_of_ok (Action.run_answer _ store), settle_run_of_ne different,
        Action.run_bind_of_ok (writeArtifact_run_of_ok written), Action.run_pure]
  | unreported rendered recorded different unwritten =>
      rw [settleSource_run_of_rendered rendered, recorded,
        Action.run_bind_of_ok (Action.run_answer _ store), settle_run_of_ne different,
        Action.run_bind_of_error (writeArtifact_run_of_error unwritten)]

/-- A source can be settled in every store. -/
theorem exists_settlement
    (parser : Parser)
    (options : CompareOptions)
    (path : String)
    (store : Store) :
    ∃ result after, Settlement parser options path store result after := by
  by_cases empty : readSource store options.readMode path = ""
  · exact ⟨_, _, .skipped empty⟩
  cases renders : renderSource parser options.indentWidth path
      (readSource store options.readMode path) with
  | error error => exact ⟨_, _, .refused empty renders⟩
  | ok rendering =>
      have rendered : Rendered parser options path store rendering :=
        ⟨empty, renderSource_eq_ok_iff.mp renders⟩
      cases reading : readReference store options.readMode (options.referencePath path) with
      | error error => exact ⟨_, _, .unreadable rendered reading⟩
      | ok reference =>
          cases reference with
          | none =>
              cases writing : store.writeFile (options.referencePath path) (rendering ++ "\n") with
              | error error => exact ⟨_, _, .uncreated rendered reading writing⟩
              | ok after => exact ⟨_, _, .created rendered reading writing⟩
          | some expected =>
              by_cases equal : expected = Text.stripLineBreaks rendering
              · exact ⟨_, _, .passed rendered (equal ▸ reading)⟩
              · cases writing : store.writeFile (options.actualPath path) (rendering ++ "\n") with
                | error error => exact ⟨_, _, .unreported rendered reading equal writing⟩
                | ok after => exact ⟨_, _, .mismatched rendered reading equal writing⟩

/-! ## The whole comparison -/

theorem tidy_run
    (next : RunAction Store Outcome)
    (store : Store) :
    (do
      if options.cleanStaleActuals then removeStale (options.actualPath path)
      next : RunAction Store Outcome).run store =
      match tidied options path store with
      | .ok tidy => next.run tidy
      | .error error => (.error error, store) := by
  unfold tidied
  by_cases clean : options.cleanStaleActuals
  · simp only [if_pos clean]
    have removing := removeStale_run store (options.actualPath path)
    cases removed : withoutStale store (options.actualPath path) with
    | ok tidy =>
        rw [removed] at removing
        exact Action.run_bind_of_ok removing
    | error error =>
        rw [removed] at removing
        exact Action.run_bind_of_error removing
  · simp only [if_neg clean]

/-- Comparing a source comes to what a comparison says. -/
theorem Comparison.run_eq
    (comparison : Comparison parser options path store result after) :
    (compareFile parser options path).run store = (result, after) := by
  rw [compareFile_eq]
  cases comparison with
  | clash clashing =>
      rw [clashing, Action.run_bind_of_error (Action.run_answer _ store)]
  | untidy distinct stuck =>
      rw [distinct, Action.run_bind_of_ok (Action.run_answer _ store), tidy_run, stuck]
  | settled distinct removed settlement =>
      rw [distinct, Action.run_bind_of_ok (Action.run_answer _ store), tidy_run, removed]
      exact settlement.run_eq

/-- A source can be compared in every store. -/
theorem exists_comparison
    (parser : Parser)
    (options : CompareOptions)
    (path : String)
    (store : Store) :
    ∃ result after, Comparison parser options path store result after := by
  cases checked : checkExtensions options.extensions with
  | error error => exact ⟨_, _, .clash checked⟩
  | ok =>
      cases removed : tidied options path store with
      | error error => exact ⟨_, _, .untidy checked removed⟩
      | ok tidy =>
          obtain ⟨result, after, settlement⟩ := exists_settlement parser options path tidy
          exact ⟨_, _, .settled checked removed settlement⟩

/-- The comparisons are exactly what comparing a source does. -/
theorem compareFile_run_eq_iff :
    (compareFile parser options path).run store = (result, after) ↔
      Comparison parser options path store result after := by
  constructor
  · intro ran
    obtain ⟨result', after', comparison⟩ := exists_comparison parser options path store
    rw [comparison.run_eq, Prod.mk.injEq] at ran
    exact ran.1 ▸ ran.2 ▸ comparison
  · exact Comparison.run_eq

/-! ## What a comparison leaves alone -/

theorem withoutStale_eq_ok
    (removed : withoutStale store path = .ok after) :
    after = store ∨ store.removeFile path = .ok after := by
  unfold withoutStale at removed
  split at removed
  · split at removed
    next removing => exact .inr (Except.ok.inj removed ▸ removing)
    next => cases removed
  · exact .inl (Except.ok.inj removed).symm

theorem tidied_eq_ok
    (removed : tidied options path store = .ok after) :
    after = store ∨ store.removeFile (options.actualPath path) = .ok after := by
  unfold tidied at removed
  split at removed
  · exact withoutStale_eq_ok removed
  · exact .inl (Except.ok.inj removed).symm

theorem tidied_of_removed
    (clean : options.cleanStaleActuals)
    (removed : store.removeFile (options.actualPath path) = .ok after) :
    tidied options path store = .ok after := by
  obtain ⟨_, held, _⟩ := Store.removeFile_eq_ok_iff.mp removed
  have there := Store.present_of_find? (Store.read_eq_some_iff.mp held)
  rw [tidied, if_pos clean, withoutStale, if_pos there, removed]

theorem withoutStale_of_absent (absent : store.present path = false) :
    withoutStale store path = .ok store := by
  rw [withoutStale, absent, if_neg Bool.false_ne_true]

theorem tidied_of_absent (absent : store.present (options.actualPath path) = false) :
    tidied options path store = .ok store := by
  rw [tidied, withoutStale_of_absent absent, ite_self]

/-- Settling a source writes the reference if it is missing, the actual artifact if
there is a mismatch, and nothing else. -/
theorem Settlement.after_eq
    (settlement : Settlement parser options path store result after) :
    after = store ∨
      (result = .ok (.created (options.referencePath path)) ∧
        readReference store options.readMode (options.referencePath path) = .ok none ∧
          ∃ content, store.writeFile (options.referencePath path) content = .ok after) ∨
      (result = .ok (.mismatched (options.actualPath path)) ∧
        ∃ content, store.writeFile (options.actualPath path) content = .ok after) := by
  cases settlement with
  | created rendered missing written => exact .inr (.inl ⟨rfl, missing, _, written⟩)
  | mismatched rendered recorded different written => exact .inr (.inr ⟨rfl, _, written⟩)
  | _ => exact .inl rfl

/-- What removing and writing files preserves is preserved by a comparison; the file
is the actual artifact, or the reference if that is missing. -/
theorem Comparison.preserves
    (invariant : Store → Prop)
    (removing : ∀ store after, invariant store →
      store.removeFile (options.actualPath path) = .ok after → invariant after)
    (writing : ∀ store after content, invariant store →
      store.writeFile (options.actualPath path) content = .ok after → invariant after)
    (creating : ∀ store after content, invariant store →
      readReference store options.readMode (options.referencePath path) = .ok none →
      result = .ok (.created (options.referencePath path)) →
      store.writeFile (options.referencePath path) content = .ok after → invariant after)
    (comparison : Comparison parser options path store result after)
    (initial : invariant store) :
    invariant after := by
  cases comparison with
  | clash => exact initial
  | untidy => exact initial
  | @settled tidy _ _ distinct removed settlement =>
      have prepared : invariant tidy := by
        rcases tidied_eq_ok removed with rfl | removed
        · exact initial
        · exact removing store tidy initial removed
      rcases settlement.after_eq with
        rfl | ⟨created, missing, content, written⟩ | ⟨_, content, written⟩
      · exact prepared
      · exact creating tidy after content prepared missing created written
      · exact writing tidy after content prepared written

theorem tidied_linkless
    (linkless : store.Linkless)
    (removed : tidied options path store = .ok after) :
    after.Linkless := by
  rcases tidied_eq_ok removed with rfl | removed
  · exact linkless
  · exact linkless.removed removed

/-- Comparing a source makes no links. -/
theorem Comparison.linkless
    (comparison : Comparison parser options path store result after)
    (linkless : store.Linkless) :
    after.Linkless :=
  comparison.preserves Store.Linkless (fun _ _ linkless removed => linkless.removed removed)
    (fun _ _ _ linkless written => linkless.written written)
    (fun _ _ _ linkless _ _ written => linkless.written written) linkless

theorem tidied_find?
    {location : Location}
    (linkless : store.Linkless)
    (removed : tidied options path store = .ok after)
    (notActual : location ≠ .ofPath (options.actualPath path)) :
    after.find? location = store.find? location := by
  rcases tidied_eq_ok removed with rfl | removed
  · rfl
  · exact linkless.find?_removed removed notActual

/-- Comparing a source leaves every entry alone but the actual artifact, and the
reference if that is created. -/
theorem Comparison.find?_eq
    {location : Location}
    (comparison : Comparison parser options path store result after)
    (linkless : store.Linkless)
    (notActual : location ≠ .ofPath (options.actualPath path))
    (kept : result = .ok (.created (options.referencePath path)) →
      location ≠ .ofPath (options.referencePath path)) :
    after.find? location = store.find? location := by
  have both : after.Linkless ∧ after.find? location = store.find? location := by
    refine comparison.preserves
      (fun changed => changed.Linkless ∧ changed.find? location = store.find? location)
      ?_ ?_ ?_ ⟨linkless, rfl⟩
    · rintro earlier later ⟨linkless, same⟩ removed
      exact ⟨linkless.removed removed, (linkless.find?_removed removed notActual).trans same⟩
    · rintro earlier later content ⟨linkless, same⟩ written
      exact ⟨linkless.written written, (linkless.find?_written written notActual).trans same⟩
    · rintro earlier later content ⟨linkless, same⟩ _ created written
      exact ⟨linkless.written written,
        (linkless.find?_written written (kept created)).trans same⟩
  exact both.2

end Compare
end Baseline
