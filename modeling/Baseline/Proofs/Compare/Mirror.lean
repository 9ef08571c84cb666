import Baseline.Proofs.Compare.Comparison

/-!
# Comparisons in two stores at once

Two stores without links that give the same answers about a source go through the same
comparison of it: what cannot be removed or written in one of them cannot be in the other.
So if a relation between stores implies the same answers, and is kept when one artifact is
removed or written alike in both (`Mirrors`), comparing the source keeps it
(`Mirrors.comparison`).
-/

namespace Baseline
namespace Compare

variable
  {parser : Parser}
  {options : CompareOptions}
  {path : String}
  {store next after tidy : Store}
  {result : Except RunError Outcome}

/-! ## Tidying -/

/-- An artifact that cannot be removed from a store cannot be removed from one that holds
the same. -/
theorem withoutStale_eq_error
    {error : RunError}
    (linkless : store.Linkless)
    (afterLinkless : after.Linkless)
    (same : after.find? (.ofPath path) = store.find? (.ofPath path))
    (stuck : withoutStale store path = .error error) :
    withoutStale after path = .error error := by
  unfold withoutStale at stuck ⊢
  rw [linkless.present_eq afterLinkless same]
  split at stuck
  next there =>
      rw [if_pos there]
      cases removing : store.removeFile path with
      | ok =>
          rw [removing] at stuck
          cases stuck
      | error reason =>
          rw [removing] at stuck
          rw [linkless.removeFile_eq_error afterLinkless same removing]
          exact stuck
  next => cases stuck

theorem tidied_eq_error
    {error : RunError}
    (linkless : store.Linkless)
    (afterLinkless : after.Linkless)
    (same : after.find? (.ofPath (options.actualPath path)) =
      store.find? (.ofPath (options.actualPath path)))
    (stuck : tidied options path store = .error error) :
    tidied options path after = .error error := by
  unfold tidied at stuck ⊢
  split at stuck
  next clean =>
      rw [if_pos clean]
      exact withoutStale_eq_error linkless afterLinkless same stuck
  next => cases stuck

theorem Rendered.again
    {rendering : String}
    (rendered : Rendered parser options path store rendering)
    (source : readSource next options.readMode path = readSource store options.readMode path) :
    Rendered parser options path next rendering where
  nonempty := source ▸ rendered.nonempty
  renders := source ▸ rendered.renders

/-! ## Related stores -/

/-- Related stores give the same answers about a source, and stay related when its
artifacts are removed or written in both of them. -/
structure Mirrors (options : CompareOptions) (path : String) (related : Store → Store → Prop) :
    Prop where
  /-- No entry of the first store is a link. -/
  linkless {store next : Store} : related store next → store.Linkless
  /-- No entry of the second store is a link. -/
  nextLinkless {store next : Store} : related store next → next.Linkless
  /-- The stores hold the same actual artifact. -/
  actual {store next : Store} :
    related store next →
    next.find? (.ofPath (options.actualPath path)) =
      store.find? (.ofPath (options.actualPath path))
  /-- The same is read of the source. -/
  source {store next : Store} :
    related store next →
    readSource next options.readMode path = readSource store options.readMode path
  /-- The same is read of the reference. -/
  reference {store next : Store} :
    related store next →
    readReference next options.readMode (options.referencePath path) =
      readReference store options.readMode (options.referencePath path)
  /-- If there is something to compare, writes are refused alike. -/
  refusal {store next : Store} {target : String} :
    related store next →
    readSource store options.readMode path ≠ "" →
    target = options.referencePath path ∨ target = options.actualPath path →
    next.refusal? target = store.refusal? target
  /-- The actual artifact can be removed from both. -/
  removed {store next after last : Store} :
    related store next →
    store.removeFile (options.actualPath path) = .ok after →
    next.removeFile (options.actualPath path) = .ok last →
    related after last
  /-- An artifact can be written in both. -/
  written {store next after last : Store} {target content : String} :
    related store next →
    target = options.referencePath path ∨ target = options.actualPath path →
    store.writeFile target content = .ok after →
    next.writeFile target content = .ok last →
    related after last

variable {related : Store → Store → Prop}

theorem Mirrors.withoutStale
    (mirrors : Mirrors options path related)
    (same : related store next)
    (removed : Compare.withoutStale store (options.actualPath path) = .ok tidy) :
    ∃ prepared,
      Compare.withoutStale next (options.actualPath path) = .ok prepared ∧
        related tidy prepared := by
  unfold Compare.withoutStale at removed ⊢
  rw [(mirrors.linkless same).present_eq (mirrors.nextLinkless same) (mirrors.actual same)]
  split at removed
  next there =>
      rw [if_pos there]
      cases removing : store.removeFile (options.actualPath path) with
      | error error =>
          rw [removing] at removed
          cases removed
      | ok after =>
          rw [removing] at removed
          obtain rfl := Except.ok.inj removed
          obtain ⟨content, held, _⟩ := Store.removeFile_eq_ok_iff.mp removing
          rw [← (mirrors.linkless same).read_eq (mirrors.nextLinkless same) (mirrors.actual same)]
            at held
          have nextRemoving := Store.removeFile_eq_ok_iff.mpr ⟨content, held, rfl⟩
          rw [nextRemoving]
          exact ⟨_, rfl, mirrors.removed same removing nextRemoving⟩
  next absent =>
      rw [if_neg absent]
      exact ⟨next, rfl, Except.ok.inj removed ▸ same⟩

theorem Mirrors.tidied
    (mirrors : Mirrors options path related)
    (same : related store next)
    (removed : Compare.tidied options path store = .ok tidy) :
    ∃ prepared, Compare.tidied options path next = .ok prepared ∧ related tidy prepared := by
  unfold Compare.tidied at removed ⊢
  split at removed
  next clean =>
      rw [if_pos clean]
      exact mirrors.withoutStale same removed
  next unclean =>
      rw [if_neg unclean]
      exact ⟨next, rfl, Except.ok.inj removed ▸ same⟩

/-- A source is settled alike in related stores. -/
theorem Mirrors.settlement
    (mirrors : Mirrors options path related)
    (same : related store next)
    (settlement : Settlement parser options path store result after) :
    ∃ last, Settlement parser options path next result last ∧ related after last := by
  have source := mirrors.source same
  have reference := mirrors.reference same
  have writes {target content : String} {after : Store}
      (nonempty : readSource store options.readMode path ≠ "")
      (artifact : target = options.referencePath path ∨ target = options.actualPath path)
      (written : store.writeFile target content = .ok after) :
      ∃ last, next.writeFile target content = .ok last ∧ related after last := by
    have free := Store.exists_writeFile_eq_ok_iff.mp ⟨after, written⟩
    rw [← mirrors.refusal same nonempty artifact] at free
    obtain ⟨last, nextWritten⟩ := Store.exists_writeFile_eq_ok_iff.mpr free
    exact ⟨last, nextWritten, mirrors.written same artifact written nextWritten⟩
  have fails {target content : String} {error : FileError}
      (nonempty : readSource store options.readMode path ≠ "")
      (artifact : target = options.referencePath path ∨ target = options.actualPath path)
      (unwritten : store.writeFile target content = .error error) :
      next.writeFile target content = .error error := by
    have refused := Store.writeFile_eq_error_iff.mp unwritten
    rw [← mirrors.refusal same nonempty artifact] at refused
    exact Store.writeFile_eq_error_iff.mpr refused
  cases settlement with
  | skipped empty => exact ⟨next, .skipped (source.trans empty), same⟩
  | refused nonempty refusal => exact ⟨next, .refused (source ▸ nonempty) (source ▸ refusal), same⟩
  | unreadable rendered unread =>
      exact ⟨next, .unreadable (rendered.again source) (reference.trans unread), same⟩
  | created rendered missing written =>
      obtain ⟨last, nextWritten, sameAfter⟩ := writes rendered.nonempty (.inl rfl) written
      exact ⟨last, .created (rendered.again source) (reference.trans missing) nextWritten,
        sameAfter⟩
  | uncreated rendered missing unwritten =>
      have nextUnwritten := fails rendered.nonempty (.inl rfl) unwritten
      exact ⟨next, .uncreated (rendered.again source) (reference.trans missing) nextUnwritten, same⟩
  | passed rendered equal =>
      exact ⟨next, .passed (rendered.again source) (reference.trans equal), same⟩
  | mismatched rendered recorded different written =>
      obtain ⟨last, nextWritten, sameAfter⟩ := writes rendered.nonempty (.inr rfl) written
      exact ⟨last, .mismatched (rendered.again source) (reference.trans recorded) different
        nextWritten, sameAfter⟩
  | unreported rendered recorded different unwritten =>
      have nextUnwritten := fails rendered.nonempty (.inr rfl) unwritten
      exact ⟨next, .unreported (rendered.again source) (reference.trans recorded) different
        nextUnwritten, same⟩

/-- A source is compared alike in related stores, and they stay related. -/
theorem Mirrors.comparison
    (mirrors : Mirrors options path related)
    (same : related store next)
    (comparison : Comparison parser options path store result after) :
    ∃ last, Comparison parser options path next result last ∧ related after last := by
  cases comparison with
  | clash clashing => exact ⟨next, .clash clashing, same⟩
  | untidy distinct stuck =>
      have nextStuck := tidied_eq_error (mirrors.linkless same) (mirrors.nextLinkless same)
        (mirrors.actual same) stuck
      exact ⟨next, .untidy distinct nextStuck, same⟩
  | settled distinct removed settlement =>
      obtain ⟨prepared, nextRemoved, samePrepared⟩ := mirrors.tidied same removed
      obtain ⟨last, nextSettled, sameAfter⟩ := mirrors.settlement samePrepared settlement
      exact ⟨last, .settled distinct nextRemoved nextSettled, sameAfter⟩

end Compare
end Baseline
