import Baseline.Proofs.Compare.All
import Baseline.Proofs.Compare.Sparing

/-!
# Runs that count and tell

A run can count outcomes and tell every record while sources are compared
(`compareEach`) instead of looking at the records at its end; what it does to files is the
same (`compareEach_run`).  The counts are those of the records (`Tally.Balanced`), two runs
make one run over both lists of sources (`compareEach_append`), and a run that fails has
done nothing about the sources after the failing one (`Aborted`).
-/

namespace Baseline

/-- The counts of a run and its records, so far. -/
structure Tally where
  /-- The number of sources compared, skipped ones included. -/
  examined : Nat := 0
  /-- The number of sources that passed. -/
  passed : Nat := 0
  /-- The number of sources that mismatched. -/
  mismatched : Nat := 0
  /-- The number of sources that got a new reference. -/
  created : Nat := 0
  /-- The number of sources skipped. -/
  skipped : Nat := 0
  /-- One record for each source. -/
  records : List FileRecord := []
  deriving DecidableEq, Repr

namespace Tally

/-- Count one more source. -/
def add (tally : Tally) (record : FileRecord) : Tally :=
  let counted :=
    { tally with examined := tally.examined + 1, records := tally.records ++ [record] }
  match record.outcome with
  | .passed => { counted with passed := tally.passed + 1 }
  | .mismatched _ => { counted with mismatched := tally.mismatched + 1 }
  | .created _ => { counted with created := tally.created + 1 }
  | .skipped => { counted with skipped := tally.skipped + 1 }

/-- The counts of two runs together, and the records of the second after those of the
first. -/
instance : Append Tally where
  append first second := {
    examined := first.examined + second.examined
    passed := first.passed + second.passed
    mismatched := first.mismatched + second.mismatched
    created := first.created + second.created
    skipped := first.skipped + second.skipped
    records := first.records ++ second.records }

/-- What counting some records gives. -/
def of (records : List FileRecord) : Tally where
  examined := (Report.mk records).examined
  passed := (Report.mk records).passed
  mismatched := (Report.mk records).mismatched
  created := (Report.mk records).created
  skipped := (Report.mk records).skipped
  records := records

/-- The sources that mismatched, in order. -/
def mismatchedPaths (tally : Tally) : List String :=
  (Report.mk tally.records).mismatchedPaths

variable {records : List FileRecord}

theorem append_def (first second : Tally) :
    first ++ second =
      ⟨first.examined + second.examined, first.passed + second.passed,
        first.mismatched + second.mismatched, first.created + second.created,
        first.skipped + second.skipped, first.records ++ second.records⟩ := rfl

/-- Counting two lists of records comes to counting each of them. -/
theorem of_append (first second : List FileRecord) :
    of (first ++ second) = of first ++ of second := by
  simp [of, append_def, Report.examined, Report.passed, Report.mismatched, Report.created,
    Report.skipped]

theorem of_singleton_append (tally : Tally) (record : FileRecord) :
    tally ++ of [record] = tally.add record := by
  obtain ⟨path, outcome⟩ := record
  cases outcome <;> rfl

theorem append_empty (tally : Tally) : tally ++ ({} : Tally) = tally := by
  simp [append_def]

theorem append_add (first second : Tally) (record : FileRecord) :
    first ++ second.add record = (first ++ second).add record := by
  rw [← of_singleton_append, ← of_singleton_append]
  simp [append_def, Nat.add_assoc]

/-- One more record is counted on top of the earlier ones. -/
theorem of_concat (records : List FileRecord) (record : FileRecord) :
    of (records ++ [record]) = (of records).add record := by
  rw [of_append, of_singleton_append]

/-- Every source has one record and one outcome, and is listed if it mismatched. -/
structure Balanced (tally : Tally) : Prop where
  /-- Every source has one outcome. -/
  outcomes :
    tally.examined = tally.passed + tally.mismatched + tally.created + tally.skipped
  /-- Every source has one record. -/
  records : tally.examined = tally.records.length
  /-- The sources that mismatched are listed. -/
  mismatchedPaths : tally.mismatchedPaths.length = tally.mismatched

theorem of_balanced (records : List FileRecord) : (of records).Balanced where
  outcomes := Report.examined_eq ⟨records⟩
  records := rfl
  mismatchedPaths := by
    rw [Tally.mismatchedPaths, Report.mismatchedPaths, List.length_map,
      ← List.countP_eq_length_filter]
    rfl

end Tally

namespace Compare

section AnySystem

variable {σ τ : Type} [FileAccess σ]

/-- An action on files that tells nothing. -/
def untold {α : Type} (action : RunAction σ α) : RunAction (σ × τ) α :=
  fun (system, told) =>
    let (result, next) := action.run system
    (result, (next, told))

/-- Tell a record to whoever listens. -/
def tellRecord (tell : FileRecord → τ → τ) (record : FileRecord) : RunAction (σ × τ) Unit :=
  modify fun (system, told) => (system, tell record told)

/-- Compare sources one after the other until one of them ends the run; count each outcome
and tell its record as soon as it is known. -/
def compareEach (parser : Parser) (options : CompareOptions) (tell : FileRecord → τ → τ) :
    List String → Tally → RunAction (σ × τ) Tally
  | [], tally => return tally
  | path :: rest, tally => do
      let outcome ← untold (compareFile parser options path)
      tellRecord tell ⟨path, outcome⟩
      compareEach parser options tell rest (tally.add ⟨path, outcome⟩)

/-- Compare sources and tell each of them, starting with nothing counted. -/
def compareTelling (parser : Parser) (options : CompareOptions) (tell : FileRecord → τ → τ)
    (paths : List String) : RunAction (σ × τ) Tally :=
  compareEach parser options tell paths {}

variable
  {parser : Parser}
  {options : CompareOptions}
  {tell : FileRecord → τ → τ}
  {path : String}
  {system after : σ}
  {told : τ}

omit [FileAccess σ] in
theorem untold_run_eq
    {α : Type}
    {action : RunAction σ α}
    {result : Except RunError α}
    (ran : action.run system = (result, after)) :
    (untold action : RunAction (σ × τ) α).run (system, told) = (result, (after, told)) := by
  change (let (result, next) := action.run system; (result, (next, told))) = _
  rw [ran]

theorem compareEach_run_of_error
    {error : RunError}
    (rest : List String)
    (tally : Tally)
    (ran : (compareFile parser options path).run system = (.error error, after)) :
    (compareEach parser options tell (path :: rest) tally).run (system, told) =
      (.error error, (after, told)) := by
  rw [compareEach, Action.run_bind_of_error (untold_run_eq ran)]

theorem compareEach_run_of_ok
    {outcome : Outcome}
    (rest : List String)
    (tally : Tally)
    (ran : (compareFile parser options path).run system = (.ok outcome, after)) :
    (compareEach parser options tell (path :: rest) tally).run (system, told) =
      (compareEach parser options tell rest (tally.add ⟨path, outcome⟩)).run
        (after, tell ⟨path, outcome⟩ told) := by
  have told_run : (tellRecord tell ⟨path, outcome⟩).run (after, told) =
      (.ok (), (after, tell ⟨path, outcome⟩ told)) := rfl
  rw [compareEach, Action.run_bind_of_ok (untold_run_eq ran), Action.run_bind_of_ok told_run]

/-- Counting and telling does to files what comparing them does, and the records are told in
their order. -/
theorem compareEach_run (paths : List String) (earlier : List FileRecord) (system : σ) (told : τ) :
    (compareEach parser options tell paths (.of earlier)).run (system, told) =
      let run := (compareAll parser options paths).run system
      (match run.1.error? with
        | none => .ok (.of (earlier ++ run.1.records))
        | some error => .error error,
        (run.2, run.1.records.foldl (fun told record => tell record told) told)) := by
  induction paths generalizing earlier system told with
  | nil =>
      change (Except.ok (Tally.of earlier), (system, told)) =
        (.ok (.of (earlier ++ [])), (system, told))
      rw [List.append_nil]
  | cons path rest inductionHypothesis =>
      rcases ran : (compareFile parser options path).run system with ⟨error | outcome, next⟩
      · rw [compareEach_run_of_error rest _ ran, compareAll_run_of_error rest ran]
        rfl
      · rw [compareEach_run_of_ok rest _ ran, compareAll_run_of_ok rest ran, ← Tally.of_concat,
          inductionHypothesis]
        simp only [List.append_assoc, List.singleton_append, List.foldl_cons]

/-! ## One run after another -/

/-- A run over two lists of sources goes through the first one, and then through the second
one unless it has failed. -/
theorem compareEach_append (first second : List String) (tally : Tally) :
    (compareEach parser options tell (first ++ second) tally : RunAction (σ × τ) Tally) =
      compareEach parser options tell first tally >>= compareEach parser options tell second := by
  induction first generalizing tally with
  | nil => simp [compareEach]
  | cons path rest inductionHypothesis =>
      simp only [List.cons_append, compareEach, bind_assoc, inductionHypothesis]

/-- What was counted before stays counted. -/
theorem compareEach_append_tally (paths : List String) (first second : Tally) :
    (compareEach parser options tell paths (first ++ second) : RunAction (σ × τ) Tally) =
      (first ++ ·) <$> compareEach parser options tell paths second := by
  induction paths generalizing second with
  | nil => simp [compareEach]
  | cons path rest inductionHypothesis =>
      simp only [compareEach, map_bind, ← Tally.append_add,
        inductionHypothesis]

/-- What was counted before a run is added to what the run counts. -/
theorem compareEach_eq (paths : List String) (tally : Tally) :
    (compareEach parser options tell paths tally : RunAction (σ × τ) Tally) =
      (tally ++ ·) <$> compareTelling parser options tell paths := by
  rw [compareTelling, ← compareEach_append_tally, Tally.append_empty]

theorem compareTelling_append (first second : List String) :
    (compareTelling parser options tell (first ++ second) : RunAction (σ × τ) Tally) = do
      let earlier ← compareTelling parser options tell first
      let later ← compareTelling parser options tell second
      return earlier ++ later := by
  rw [compareTelling, compareEach_append]
  refine bind_congr fun earlier => ?_
  rw [compareEach_eq, map_eq_pure_bind]

/-! ## How a run ends -/

variable
  {paths : List String}
  {tally : Tally}
  {error : RunError}
  {before next : σ × τ}

/-- All sources were compared one after the other, and each was told and counted. -/
structure Finished (parser : Parser) (options : CompareOptions) (tell : FileRecord → τ → τ)
    (before : σ × τ) (paths : List String) (tally : Tally) (after : σ × τ) : Prop where
  /-- Each source has its record. -/
  paths_eq : tally.records.map FileRecord.path = paths
  /-- The outcomes are those of the comparisons. -/
  compared : Compared parser options before.1 tally.records after.1
  /-- All records were told, in their order. -/
  heard : after.2 = tally.records.foldl (fun told record => tell record told) before.2
  /-- The counts are those of the records. -/
  counted : tally = .of tally.records

/-- The sources of the records were compared and told, and comparing the next one failed. -/
structure Aborted (parser : Parser) (options : CompareOptions) (tell : FileRecord → τ → τ)
    (before : σ × τ) (records : List FileRecord) (path : String) (error : RunError)
    (after : σ × τ) : Prop where
  /-- The comparison that failed was the last thing done to files. -/
  failed : ∃ middle, Compared parser options before.1 records middle ∧
    (compareFile parser options path).run middle = (.error error, after.1)
  /-- The records of the sources before were told, in their order. -/
  heard : after.2 = records.foldl (fun told record => tell record told) before.2

theorem compareTelling_run (paths : List String) (system : σ) (told : τ) :
    (compareTelling parser options tell paths).run (system, told) =
      let run := (compareAll parser options paths).run system
      (match run.1.error? with
        | none => .ok (.of run.1.records)
        | some error => .error error,
        (run.2, run.1.records.foldl (fun told record => tell record told) told)) :=
  compareEach_run paths [] system told

theorem compareTelling_eq_ok_iff :
    (compareTelling parser options tell paths).run before = (.ok tally, next) ↔
      Finished parser options tell before paths tally next := by
  obtain ⟨system, told⟩ := before
  obtain ⟨last, heard⟩ := next
  rw [compareTelling_run]
  constructor
  · rcases ran : (compareAll parser options paths).run system with ⟨⟨records, _ | error⟩, final⟩
    · rintro ⟨⟩
      obtain ⟨paths_eq, compared⟩ := compareAll_eq_none_iff.mp ran
      exact ⟨paths_eq, compared, rfl, rfl⟩
    · rintro ⟨⟩
  · rintro ⟨paths_eq, compared, rfl, counted⟩
    rw [compareAll_eq_none_iff.mpr ⟨paths_eq, compared⟩]
    simp only [← counted]

/-- A run fails exactly if comparing one source fails after those before it were compared;
the sources after it make no difference. -/
theorem compareTelling_eq_error_iff :
    (compareTelling parser options tell paths).run before = (.error error, next) ↔
      ∃ records path rest, paths = records.map FileRecord.path ++ path :: rest ∧
        Aborted parser options tell before records path error next := by
  obtain ⟨system, told⟩ := before
  obtain ⟨last, heard⟩ := next
  rw [compareTelling_run]
  constructor
  · rcases ran : (compareAll parser options paths).run system with ⟨⟨records, _ | error⟩, final⟩
    · rintro ⟨⟩
    · rintro ⟨⟩
      obtain ⟨path, rest, middle, paths_eq, compared, failed⟩ := compareAll_eq_some_iff.mp ran
      exact ⟨records, path, rest, paths_eq, ⟨middle, compared, failed⟩, rfl⟩
  · rintro ⟨records, path, rest, paths_eq, ⟨middle, compared, failed⟩, rfl⟩
    rw [compareAll_eq_some_iff.mpr ⟨path, rest, middle, paths_eq, compared, failed⟩]

end AnySystem

section Faults

variable {τ : Type} {store : Store}

/-- A run over two lists of sources is a run over the first one and, unless that fails, one
over the second, with the counts added and the records appended.  A run tells the records of
all sources it has compared, in their order; if comparing a source fails, no other entries
are changed than those of the artifacts of this source and the ones before it.  The counts
of a run agree with each other and with its records. -/
theorem compareTelling_composes_and_aborts
    {writers : List Store.Writer}
    (parser : Parser)
    (options : CompareOptions)
    (tell : FileRecord → τ → τ)
    (reachable : Store.Reachable store writers)
    (faults : List Fault)
    (told : τ) :
    let start : Faulty Store × τ := (⟨store, faults⟩, told)
    (∀ first second,
      (compareTelling parser options tell (first ++ second) :
          RunAction (Faulty Store × τ) Tally) = do
        let earlier ← compareTelling parser options tell first
        let later ← compareTelling parser options tell second
        return earlier ++ later) ∧
      (∀ paths tally after,
        (compareTelling parser options tell paths).run start = (.ok tally, after) ↔
          Finished parser options tell start paths tally after) ∧
        (∀ paths error after,
          (compareTelling parser options tell paths).run start = (.error error, after) ↔
            ∃ records path rest, paths = records.map FileRecord.path ++ path :: rest ∧
              Aborted parser options tell start records path error after) ∧
          (∀ records path error after,
            Aborted parser options tell start records path error after →
            Spares
              (artifactLocations parser options (records.map FileRecord.path ++ [path]) start.1)
              store after.1.inner) ∧
            ∀ paths tally after,
              Finished parser options tell start paths tally after → tally.Balanced := by
  intro start
  refine ⟨compareTelling_append, fun _ _ _ => compareTelling_eq_ok_iff,
    fun _ _ _ => compareTelling_eq_error_iff, fun records path error after aborted => ?_,
    fun _ _ _ finished => ?_⟩
  · obtain ⟨middle, compared, failed⟩ := aborted.failed
    have ran := compareAll_eq_some_iff.mpr ⟨path, [], middle, rfl, compared, failed⟩
    have spares := compareAll_spares parser options (records.map FileRecord.path ++ [path])
      start.1 reachable.wellFormed
    rw [ran] at spares
    exact spares
  · rw [finished.counted]
    exact Tally.of_balanced _

/-- Three sources without references; one of them has a second name. -/
def aliased : Store :=
  (((Store.empty.withFile "a.js" "x").withFile "b.js" "y").withFile "c.js" "z").withLink
    "d.js" "c.js"

/-- A disk on which one of the references cannot be written. -/
def full : Faulty Store :=
  ⟨aliased, [⟨.openWrite, "b.tree", "disk full"⟩]⟩

/-- The records of two sources were told, newest first, when writing a reference fails, and
whatever comes after that source keeps what it has. -/
theorem compareTelling_aborts_full :
    Store.Reachable aliased [] ∧
      ∃ after,
        (compareTelling echo {} List.cons ["a.js", "d.js", "b.js", "c.js"]).run (full, []) =
          (.error (.file "b.tree" (.refused "disk full")),
            (after, [⟨"d.js", .created "d.tree"⟩, ⟨"a.js", .created "a.tree"⟩])) ∧
        Spares (artifactLocations echo {} ["a.js", "d.js", "b.js"] full) aliased
          after.inner := by
  have reachable : Store.Reachable aliased [] :=
    .withLink _ _ (.withFile _ _ (.withFile _ _ (.withFile _ _ (.empty _))))
  have ran :
      (compareTelling echo {} List.cons ["a.js", "d.js", "b.js", "c.js"]).run (full, []) =
        (.error (.file "b.tree" (.refused "disk full")),
          (_, [⟨"d.js", .created "d.tree"⟩, ⟨"a.js", .created "a.tree"⟩])) :=
    Prod.ext (by decide +kernel) (Prod.ext rfl (by decide +kernel))
  obtain ⟨_, _, aborts, spares, _⟩ :=
    compareTelling_composes_and_aborts echo {} List.cons reachable full.faults []
  obtain ⟨records, path, rest, paths_eq, aborted⟩ := (aborts _ _ _).mp ran
  have heard : records.reverse = [⟨"d.js", .created "d.tree"⟩, ⟨"a.js", .created "a.tree"⟩] := by
    simpa using aborted.heard.symm
  rw [List.reverse_eq_iff] at heard
  subst heard
  obtain ⟨rfl, rfl⟩ : "b.js" = path ∧ ["c.js"] = rest := by simpa using paths_eq
  exact ⟨reachable, _, ran, spares _ _ _ _ aborted⟩

end Faults
end Compare
end Baseline
