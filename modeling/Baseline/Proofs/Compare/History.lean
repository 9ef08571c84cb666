import Baseline.Proofs.Compare.Comparison

/-!
# Histories of a source

A source is edited and compared again and again.  What its reference is (`Standing`) is
preserved by every event: until a comparison records one none is there, and once the
canonical text of a value is recorded it stays.  In such a store a comparison tells
exactly whether the source still stands for the value.
-/

namespace Baseline

/-- A change of a source file by somebody else. -/
inductive Edit
  /-- The file is written anew. -/
  | write (content : String)
  /-- The file is removed. -/
  | remove

/-- The store after an edit; one that is refused changes nothing. -/
def Edit.perform (path : String) (store : Store) : Edit → Store
  | .write content => (store.writeFile path content).toOption.getD store
  | .remove => (store.removeFile path).toOption.getD store

theorem Edit.perform_eq (path : String) (store : Store) (edit : Edit) :
    edit.perform path store = store ∨
      store.removeFile path = .ok (edit.perform path store) ∨
      ∃ content, store.writeFile path content = .ok (edit.perform path store) := by
  cases edit with
  | write content =>
      rw [perform]
      cases written : store.writeFile path content with
      | error error => exact .inl rfl
      | ok after => exact .inr (.inr ⟨content, written⟩)
  | remove =>
      rw [perform]
      cases removed : store.removeFile path with
      | error error => exact .inl rfl
      | ok after => exact .inr (.inl rfl)

theorem Edit.linkless
    {path : String}
    {store : Store}
    (linkless : store.Linkless)
    (edit : Edit) :
    (edit.perform path store).Linkless := by
  rcases edit.perform_eq path store with equal | removed | ⟨content, written⟩
  · rwa [equal]
  · exact linkless.removed removed
  · exact linkless.written written

/-- An edit of a source leaves every other entry alone. -/
theorem Edit.find?_eq
    {path : String}
    {store : Store}
    {location : Location}
    (linkless : store.Linkless)
    (other : location ≠ .ofPath path)
    (edit : Edit) :
    (edit.perform path store).find? location = store.find? location := by
  rcases edit.perform_eq path store with equal | removed | ⟨content, written⟩
  · rw [equal]
  · exact linkless.find?_removed removed other
  · exact linkless.find?_written written other

namespace Compare

/-- What happens to a source. -/
inductive Event
  /-- It is edited. -/
  | edit (edit : Edit)
  /-- It is compared with its reference. -/
  | compare

section History

variable (parser : Parser) (options : CompareOptions) (path : String)

/-- The results of the comparisons in a history of a source, and the store after
it. -/
def replay : List Event → Store → List (Except RunError Outcome) × Store
  | [], store => ([], store)
  | .edit edit :: rest, store => replay rest (edit.perform path store)
  | .compare :: rest, store =>
      let (result, after) := (compareFile parser options path).run store
      let (results, last) := replay rest after
      (result :: results, last)

/-- The paths of a source, of its reference and of its actual artifact lead to
three entries. -/
structure Apart (store : Store) : Prop where
  /-- The reference is not the source. -/
  reference : store.resolve (options.referencePath path) ≠ store.resolve path
  /-- The actual artifact is not the source. -/
  actual : store.resolve (options.actualPath path) ≠ store.resolve path
  /-- The reference is not the actual artifact. -/
  artifacts : store.resolve (options.referencePath path) ≠ store.resolve (options.actualPath path)

/-- There are no links, the paths of a source lead to three entries, and this is
what the path of its reference leads to. -/
structure Standing (reference : Option Entry) (store : Store) : Prop where
  /-- No entry is a link. -/
  linkless : store.Linkless
  /-- The paths lead to three entries. -/
  apart : Apart options path store
  /-- The entry of the reference. -/
  found : store.find? (store.resolve (options.referencePath path)) = reference

/-- The file that records a value. -/
def record (first : Json) : Entry :=
  .file (first.canonicalize options.indentWidth ++ "\n")

end History

variable
  {parser : Parser}
  {options : CompareOptions}
  {path : String}
  {store after : Store}
  {reference : Option Entry}
  {result : Except RunError Outcome}
  {outcome : Outcome}
  {first value : Json}

theorem Apart.of_linkless
    (apart : Apart options path store)
    (linkless : store.Linkless)
    (afterLinkless : after.Linkless) :
    Apart options path after where
  reference := by simpa only [linkless.resolve_eq, afterLinkless.resolve_eq] using apart.reference
  actual := by simpa only [linkless.resolve_eq, afterLinkless.resolve_eq] using apart.actual
  artifacts := by simpa only [linkless.resolve_eq, afterLinkless.resolve_eq] using apart.artifacts

/-- What edits preserve, and comparisons with certain results, is preserved by a
history in which all comparisons have such results. -/
theorem replay_preserves
    (invariant : Store → Prop)
    (allowed : Except RunError Outcome → Prop)
    (edited : ∀ store edit, invariant store → invariant (Edit.perform path store edit))
    (compared : ∀ store result after, invariant store → allowed result →
      Comparison parser options path store result after → invariant after)
    (history : List Event)
    (initial : invariant store)
    (results : ∀ result ∈ (replay parser options path history store).1, allowed result) :
    invariant (replay parser options path history store).2 := by
  induction history generalizing store with
  | nil => exact initial
  | cons event rest inductionHypothesis =>
      cases event with
      | edit edit => exact inductionHypothesis (edited store edit initial) results
      | compare =>
          rw [replay] at results ⊢
          obtain ⟨now, later⟩ := List.forall_mem_cons.mp results
          have comparison := compareFile_run_eq_iff.mp
            (Prod.mk.eta (p := (compareFile parser options path).run store)).symm
          exact inductionHypothesis (compared store _ _ initial now comparison) later

/-! ## The reference during a history -/

/-- A change that makes no link and leaves the reference alone. -/
theorem Standing.preserved
    (standing : Standing options path reference store)
    (afterLinkless : after.Linkless)
    (same : after.find? (.ofPath (options.referencePath path)) =
      store.find? (.ofPath (options.referencePath path))) :
    Standing options path reference after where
  linkless := afterLinkless
  apart := standing.apart.of_linkless standing.linkless afterLinkless
  found := by rw [afterLinkless.resolve_eq, same, ← standing.linkless.resolve_eq, standing.found]

/-- Editing the source leaves the reference alone. -/
theorem Standing.edited
    (standing : Standing options path reference store)
    (edit : Edit) :
    Standing options path reference (edit.perform path store) := by
  have linkless := standing.linkless
  have other : Location.ofPath (options.referencePath path) ≠ .ofPath path := by
    simpa only [linkless.resolve_eq] using standing.apart.reference
  exact standing.preserved (edit.linkless linkless) (edit.find?_eq linkless other)

theorem Standing.tidied
    (standing : Standing options path reference store)
    (removed : tidied options path store = .ok after) :
    Standing options path reference after := by
  have linkless := standing.linkless
  have other : Location.ofPath (options.referencePath path) ≠
      .ofPath (options.actualPath path) := by
    simpa only [linkless.resolve_eq] using standing.apart.artifacts
  exact standing.preserved (tidied_linkless linkless removed) (tidied_find? linkless removed other)

/-- A comparison that does not create the reference leaves it alone. -/
theorem Standing.compared
    (standing : Standing options path reference store)
    (comparison : Comparison parser options path store result after)
    (kept : result ≠ .ok (.created (options.referencePath path))) :
    Standing options path reference after := by
  have linkless := standing.linkless
  have other : Location.ofPath (options.referencePath path) ≠
      .ofPath (options.actualPath path) := by
    simpa only [linkless.resolve_eq] using standing.apart.artifacts
  exact standing.preserved (comparison.linkless linkless)
    (comparison.find?_eq linkless other fun created => absurd created kept)

theorem Standing.written
    {content : String}
    (standing : Standing options path reference store)
    (written : store.writeFile (options.referencePath path) content = .ok after) :
    Standing options path (some (.file content)) after where
  linkless := standing.linkless.written written
  apart := standing.apart.of_linkless standing.linkless (standing.linkless.written written)
  found := Store.read_eq_some_iff.mp (standing.linkless.read_written written)

/-! ## What a comparison reads -/

theorem Standing.readSource_tidied
    (standing : Standing options path reference store)
    (removed : Compare.tidied options path store = .ok after)
    (mode : ReadMode) :
    readSource after mode path = readSource store mode path := by
  have linkless := standing.linkless
  have other : Location.ofPath path ≠ .ofPath (options.actualPath path) := by
    simpa only [linkless.resolve_eq] using standing.apart.actual.symm
  rw [readSource_eq, readSource_eq, linkless.read_eq (tidied_linkless linkless removed)
    (tidied_find? linkless removed other)]

/-- Without a reference, one is made from what is read, or nothing comes of the
comparison. -/
theorem Standing.settled_of_none
    (standing : Standing options path none store)
    (below : Location.ofPath (options.referencePath path) ≠ [])
    (settlement : Settlement parser options path store (.ok outcome) after)
    (compared : outcome ≠ .skipped) :
    ∃ value,
      parser.parse (readSource store options.readMode path) = .value value ∧
        outcome = .created (options.referencePath path) ∧
          Standing options path (some (record options value)) after := by
  have missing : readReference store options.readMode (options.referencePath path) = .ok none := by
    apply readReference_of_absent
    rw [Store.present_eq_false_iff, standing.linkless.resolve_eq]
    exact ⟨below, standing.linkless.resolve_eq _ ▸ standing.found⟩
  cases settlement with
  | skipped => exact absurd rfl compared
  | created rendered _ written =>
      obtain ⟨value, parsed, rfl⟩ := rendered.renders
      exact ⟨value, parsed, rfl, standing.written written⟩
  | passed _ equal =>
      rw [missing] at equal
      cases equal
  | mismatched _ recorded =>
      rw [missing] at recorded
      cases recorded

/-- The reference that records a value is read as the canonical text of the
value. -/
theorem Standing.readReference_eq
    (standing : Standing options path (some (record options first)) store)
    (wellFormed : first.WellFormed) :
    readReference store options.readMode (options.referencePath path) =
      .ok (some (Text.stripLineBreaks (first.canonicalize options.indentWidth))) :=
  readReference_of_record wellFormed (Store.read_eq_some_iff.mpr standing.found)

/-- With a value on record, a comparison passes exactly if the source stands for
an equivalent value. -/
theorem Standing.settled_of_record
    (standing : Standing options path (some (record options first)) store)
    (firstFormed : first.WellFormed)
    (settlement : Settlement parser options path store (.ok outcome) after)
    (parsed : parser.parse (readSource store options.readMode path) = .value value)
    (nonempty : readSource store options.readMode path ≠ "")
    (valueFormed : value.WellFormed) :
    (value.Equivalent first ∧ outcome = .passed) ∨
      (¬value.Equivalent first ∧
        outcome = .mismatched (options.actualPath path) ∧
          after.read (options.actualPath path) =
            some (value.canonicalize options.indentWidth ++ "\n")) := by
  have reading := standing.readReference_eq firstFormed
  have equal_iff :
      Text.stripLineBreaks (first.canonicalize options.indentWidth) =
          Text.stripLineBreaks (value.canonicalize options.indentWidth) ↔
        value.Equivalent first := by
    rw [Json.stripLineBreaks_canonicalize_eq_iff_sortMembers_eq firstFormed valueFormed, eq_comm]
    exact Json.sortMembers_eq_iff valueFormed firstFormed
  have rendering_eq
      {rendering : String}
      (rendered : Rendered parser options path store rendering) :
      rendering = value.canonicalize options.indentWidth := by
    obtain ⟨other, otherParsed, rfl⟩ := rendered.renders
    rw [parsed] at otherParsed
    rw [Parsed.value.inj otherParsed]
  cases settlement with
  | skipped empty => exact absurd empty nonempty
  | created _ missing =>
      rw [reading] at missing
      cases missing
  | passed rendered equal =>
      rw [reading, rendering_eq rendered] at equal
      exact .inl ⟨equal_iff.mp (Option.some.inj (Except.ok.inj equal)), rfl⟩
  | mismatched rendered recorded different written =>
      rw [reading] at recorded
      rw [← Option.some.inj (Except.ok.inj recorded), rendering_eq rendered] at different
      refine .inr ⟨mt equal_iff.mpr different, rfl, ?_⟩
      rw [← rendering_eq rendered]
      exact standing.linkless.read_written written

theorem Standing.compared_of_none
    (standing : Standing options path none store)
    (below : Location.ofPath (options.referencePath path) ≠ [])
    (comparison : Comparison parser options path store (.ok outcome) after)
    (compared : outcome ≠ .skipped) :
    ∃ value,
      parser.parse (readSource store options.readMode path) = .value value ∧
        outcome = .created (options.referencePath path) ∧
          Standing options path (some (record options value)) after := by
  cases comparison with
  | settled distinct removed settlement =>
      rw [← standing.readSource_tidied removed]
      exact (standing.tidied removed).settled_of_none below settlement compared

theorem Standing.compared_of_record
    (standing : Standing options path (some (record options first)) store)
    (firstFormed : first.WellFormed)
    (comparison : Comparison parser options path store (.ok outcome) after)
    (parsed : parser.parse (readSource store options.readMode path) = .value value)
    (nonempty : readSource store options.readMode path ≠ "")
    (valueFormed : value.WellFormed) :
    (value.Equivalent first ∧ outcome = .passed) ∨
      (¬value.Equivalent first ∧
        outcome = .mismatched (options.actualPath path) ∧
          after.read (options.actualPath path) =
            some (value.canonicalize options.indentWidth ++ "\n")) := by
  cases comparison with
  | settled distinct removed settlement =>
      rw [← standing.readSource_tidied removed] at parsed nonempty
      exact (standing.tidied removed).settled_of_record firstFormed settlement parsed nonempty
        valueFormed

/-- A comparison that is not skipped and does not fail creates the reference exactly if it
is taken for missing. -/
theorem Settlement.created_iff
    (settlement : Settlement parser options path store (.ok outcome) after)
    (compared : outcome ≠ .skipped) :
    outcome = .created (options.referencePath path) ↔
      readReference store options.readMode (options.referencePath path) = .ok none := by
  cases settlement with
  | skipped => exact absurd rfl compared
  | created rendered missing written => exact ⟨fun _ => missing, fun _ => rfl⟩
  | passed rendered equal =>
      rw [equal]
      exact ⟨nofun, nofun⟩
  | mismatched rendered recorded different written =>
      rw [recorded]
      exact ⟨nofun, nofun⟩

theorem Standing.read_eq
    {content : String}
    (standing : Standing options path (some (.file content)) store) :
    store.read (options.referencePath path) = some content :=
  Store.read_eq_some_iff.mpr standing.found

/-- A comparison that is not skipped and does not fail creates the reference exactly if
nothing is recorded in it. -/
theorem Standing.created_iff
    {content : String}
    (standing : Standing options path (some (.file content)) store)
    (comparison : Comparison parser options path store (.ok outcome) after)
    (compared : outcome ≠ .skipped) :
    outcome = .created (options.referencePath path) ↔ ¬options.readMode.Records content := by
  cases comparison with
  | settled distinct removed settlement =>
      rw [settlement.created_iff compared,
        readReference_eq_none_iff (standing.tidied removed).read_eq]

/-- A recorded reference is not created anew. -/
theorem Standing.ne_created_of_records
    {content : String}
    (standing : Standing options path (some (.file content)) store)
    (comparison : Comparison parser options path store result after)
    (records : options.readMode.Records content)
    (reference : String) :
    result ≠ .ok (.created reference) := by
  rintro rfl
  have created_iff := standing.created_iff comparison Outcome.noConfusion
  cases comparison with
  | settled distinct removed settlement =>
      cases settlement with
      | created => exact created_iff.mp rfl records

/-- With a value on record, no reference is created. -/
theorem Standing.ne_created
    {created : String}
    (standing : Standing options path (some (record options first)) store)
    (firstFormed : first.WellFormed)
    (comparison : Comparison parser options path store result after) :
    result ≠ .ok (.created created) :=
  standing.ne_created_of_records comparison (ReadMode.records_canonicalize _ firstFormed _) created

theorem Standing.replayed_of_record
    (standing : Standing options path (some (record options first)) store)
    (firstFormed : first.WellFormed)
    (history : List Event) :
    Standing options path (some (record options first))
      (replay parser options path history store).2 := by
  apply replay_preserves (Standing options path (some (record options first))) fun _ => True
  · exact fun _ edit standing => standing.edited edit
  · intro store result after standing _ comparison
    exact standing.compared comparison (standing.ne_created firstFormed comparison)
  · exact standing
  · exact fun _ _ => trivial

theorem Standing.replayed_of_none
    (standing : Standing options path none store)
    (history : List Event)
    (silent : ∀ outcome, .ok outcome ∈ (replay parser options path history store).1 →
      outcome = .skipped) :
    Standing options path none (replay parser options path history store).2 := by
  apply replay_preserves (Standing options path none) fun result =>
    ∀ outcome, result = .ok outcome → outcome = .skipped
  · exact fun _ edit standing => standing.edited edit
  · intro store result after standing quiet comparison
    refine standing.compared comparison ?_
    rintro rfl
    cases quiet _ rfl
  · exact standing
  · rintro _ member outcome rfl
    exact silent outcome member

/-! ## The first reference -/

/-- What a source with a recorded value can rely on, after any history. -/
structure Guarded (parser : Parser) (options : CompareOptions) (path : String)
    (first : Json) (store : Store) : Prop where
  /-- The reference is the canonical text of the value and a line feed. -/
  reference :
    store.read (options.referencePath path) =
      some (first.canonicalize options.indentWidth ++ "\n")
  /-- The next comparison creates no reference. -/
  uncreated (created : String) (after : Store) :
    (compareFile parser options path).run store ≠ (.ok (.created created), after)
  /-- If the source stands for an equivalent value, the next comparison passes
  unless it fails. -/
  passed (value : Json) (outcome : Outcome) (after : Store) :
    readSource store options.readMode path ≠ "" →
    parser.parse (readSource store options.readMode path) = .value value →
    value.Equivalent first →
    (compareFile parser options path).run store = (.ok outcome, after) →
    outcome = .passed
  /-- If the source stands for any other value, the next comparison reports that
  value unless it fails. -/
  mismatched (value : Json) (outcome : Outcome) (after : Store) :
    readSource store options.readMode path ≠ "" →
    parser.parse (readSource store options.readMode path) = .value value →
    ¬value.Equivalent first →
    (compareFile parser options path).run store = (.ok outcome, after) →
    outcome = .mismatched (options.actualPath path) ∧
      after.read (options.actualPath path) =
        some (value.canonicalize options.indentWidth ++ "\n")

theorem Standing.guarded
    (parses : ∀ text value, parser.parse text = .value value → value.WellFormed)
    (standing : Standing options path (some (record options first)) store)
    (firstFormed : first.WellFormed) :
    Guarded parser options path first store where
  reference := Store.read_eq_some_iff.mpr standing.found
  uncreated created after ran :=
    standing.ne_created firstFormed (compareFile_run_eq_iff.mp ran) rfl
  passed value outcome after nonempty parsed equivalent ran := by
    have judged := standing.compared_of_record firstFormed (compareFile_run_eq_iff.mp ran) parsed
      nonempty (parses _ value parsed)
    exact (judged.resolve_right fun different => different.1 equivalent).2
  mismatched value outcome after nonempty parsed different ran := by
    have judged := standing.compared_of_record firstFormed (compareFile_run_eq_iff.mp ran) parsed
      nonempty (parses _ value parsed)
    exact (judged.resolve_left fun equivalent => different equivalent.1).2

/-- The first comparison that is neither skipped nor fails creates the reference
from what it reads, and the reference is guarded after every later history. -/
theorem first_reference_guarded
    (parses : ∀ text value, parser.parse text = .value value → value.WellFormed)
    (linkless : store.Linkless)
    (apart : Apart options path store)
    (absent : store.present (options.referencePath path) = false)
    (earlier : List Event)
    (silent : ∀ outcome, .ok outcome ∈ (replay parser options path earlier store).1 →
      outcome = .skipped)
    (ran : (compareFile parser options path).run (replay parser options path earlier store).2 =
      (.ok outcome, after))
    (compared : outcome ≠ .skipped) :
    outcome = .created (options.referencePath path) ∧
      ∃ first,
        parser.parse
            (readSource (replay parser options path earlier store).2 options.readMode path) =
          .value first ∧
        ∀ later, Guarded parser options path first (replay parser options path later after).2 := by
  obtain ⟨below, nothing⟩ := Store.present_eq_false_iff.mp absent
  rw [linkless.resolve_eq] at below
  have standing : Standing options path none store := ⟨linkless, apart, nothing⟩
  obtain ⟨first, parsed, created, recorded⟩ :=
    (standing.replayed_of_none earlier silent).compared_of_none below
      (compareFile_run_eq_iff.mp ran) compared
  have firstFormed := parses _ first parsed
  refine ⟨created, first, parsed, fun later => ?_⟩
  exact (recorded.replayed_of_record firstFormed later).guarded parses firstFormed

theorem lineList_wellFormed
    {text : String}
    {value : Json}
    (parsed : Parser.lineList.parse text = .value value) :
    value.WellFormed := by
  simp only [Parser.lineList] at parsed
  split at parsed
  next => cases parsed
  next =>
    rw [← Parsed.value.inj parsed]
    have names : ["type", "lines"].Nodup := by decide
    refine .object names ?_
    rw [List.forall_mem_cons, List.forall_mem_singleton]
    refine ⟨.string _, .array fun item member => ?_⟩
    obtain ⟨line, _, rfl⟩ := List.mem_map.mp member
    exact .string _

/-- A store with an empty source. -/
def emptySource : Store :=
  Store.empty.withFile "a.js" ""

/-- The source is skipped while it is empty; its first line makes a reference that
is guarded. -/
theorem first_reference_of_emptySource_guarded :
    emptySource.Linkless ∧
      Apart {} "a.js" emptySource ∧
      emptySource.present "a.tree" = false ∧
      (replay .lineList {} "a.js" [.compare, .edit (.write "x")] emptySource).1 = [.ok .skipped] ∧
      ∃ first after,
        (compareFile .lineList {} "a.js").run
            (replay .lineList {} "a.js" [.compare, .edit (.write "x")] emptySource).2 =
          (.ok (.created "a.tree"), after) ∧
        ∀ later, Guarded .lineList {} "a.js" first (replay .lineList {} "a.js" later after).2 := by
  have linkless : emptySource.Linkless := by decide +kernel
  have apart : Apart {} "a.js" emptySource :=
    ⟨by decide +kernel, by decide +kernel, by decide +kernel⟩
  have absent : emptySource.present "a.tree" = false := by decide +kernel
  have skipped :
      (replay .lineList {} "a.js" [.compare, .edit (.write "x")] emptySource).1 =
        [.ok .skipped] := by
    decide +kernel
  have silent (outcome : Outcome)
      (member : .ok outcome ∈
        (replay .lineList {} "a.js" [.compare, .edit (.write "x")] emptySource).1) :
      outcome = .skipped := by
    rw [skipped, List.mem_singleton] at member
    exact Except.ok.inj member
  have ran :
      (compareFile .lineList {} "a.js").run
          (replay .lineList {} "a.js" [.compare, .edit (.write "x")] emptySource).2 =
        (.ok (.created "a.tree"), _) :=
    Prod.ext (by decide +kernel) rfl
  obtain ⟨_, first, _, guarded⟩ := first_reference_guarded (fun _ _ => lineList_wellFormed)
    linkless apart absent _ silent ran (by decide)
  exact ⟨linkless, apart, absent, skipped, first, _, ran, guarded⟩

end Compare
end Baseline
