/-!
# Outcomes and reports

A comparison gives one outcome for each source; a report keeps them in the order
in which the sources were compared.
-/

namespace Baseline

/-- What a comparison found for a source. -/
inductive Outcome
  /-- The rendering equals the reference. -/
  | passed
  /-- The rendering differs and lies at the path given. -/
  | mismatched (actual : String)
  /-- There was no reference; the rendering is now the reference at the path
  given. -/
  | created (reference : String)
  /-- The source is empty or cannot be read. -/
  | skipped
  deriving DecidableEq, Repr

/-- A source and its outcome. -/
structure FileRecord where
  /-- The path of the source. -/
  path : String
  /-- What was found. -/
  outcome : Outcome
  deriving DecidableEq, Repr

namespace FileRecord

/-- The source passed. -/
def isPassed (record : FileRecord) : Bool :=
  record.outcome matches .passed

/-- The source mismatched. -/
def isMismatched (record : FileRecord) : Bool :=
  record.outcome matches .mismatched _

/-- The source got a new reference. -/
def isCreated (record : FileRecord) : Bool :=
  record.outcome matches .created _

/-- The source was skipped. -/
def isSkipped (record : FileRecord) : Bool :=
  record.outcome matches .skipped

end FileRecord

/-- The outcomes of a run, in the order of the comparisons. -/
structure Report where
  /-- One record for each source. -/
  records : List FileRecord := []
  deriving DecidableEq, Repr

namespace Report

/-- The number of sources compared, skipped ones included. -/
def examined (report : Report) : Nat := report.records.length

/-- The number of sources that passed. -/
def passed (report : Report) : Nat := report.records.countP FileRecord.isPassed

/-- The number of sources that mismatched. -/
def mismatched (report : Report) : Nat := report.records.countP FileRecord.isMismatched

/-- The number of sources that got a new reference. -/
def created (report : Report) : Nat := report.records.countP FileRecord.isCreated

/-- The number of sources skipped. -/
def skipped (report : Report) : Nat := report.records.countP FileRecord.isSkipped

/-- The sources that mismatched, in order. -/
def mismatchedPaths (report : Report) : List String :=
  (report.records.filter FileRecord.isMismatched).map FileRecord.path

/-- Every source has exactly one outcome. -/
theorem examined_eq (report : Report) :
    report.examined =
      report.passed + report.mismatched + report.created + report.skipped := by
  obtain ⟨records⟩ := report
  simp only [examined, passed, mismatched, created, skipped]
  induction records with
  | nil => rfl
  | cons record rest inductionHypothesis =>
      obtain ⟨path, outcome⟩ := record
      cases outcome <;>
        simp [FileRecord.isPassed, FileRecord.isMismatched, FileRecord.isCreated,
          FileRecord.isSkipped, List.countP_cons] at inductionHypothesis ⊢ <;> omega

end Report
end Baseline
