import Baseline.Proofs.Store.Table

/-!
# Whole files of a store

What is at a path, and what reading, writing and removing a whole file there do.
Each operation looks at the entry at one location only, apart from the question
whether the directory around a new file is there (`refusal?`), and changes no other
entry.
-/

namespace Baseline

/-- The entry is a file. -/
def Entry.isFile : Entry → Bool
  | .file _ => true
  | _ => false

/-- The entry is a directory. -/
def Entry.isDirectory : Entry → Bool
  | .directory => true
  | _ => false

namespace Store

variable {store : Store} {path content : String} {location : Location}

/-! ## What is at a path -/

theorem lookup_of_resolve_eq_nil (root : store.resolve path = []) :
    store.lookup path = some .directory := by
  unfold resolve at root
  rw [lookup, lookupLocation, root]

theorem lookup_of_resolve_ne_nil (below : store.resolve path ≠ []) :
    store.lookup path = store.find? (store.resolve path) := by
  unfold resolve at below
  unfold lookup lookupLocation resolve
  split
  · contradiction
  · rfl

/-- Nothing is at a path exactly if it leads below the root and nothing is found
there. -/
theorem present_eq_false_iff :
    store.present path = false ↔
      store.resolve path ≠ [] ∧ store.find? (store.resolve path) = none := by
  unfold present
  by_cases root : store.resolve path = []
  · simp [lookup_of_resolve_eq_nil root, root]
  · simp [lookup_of_resolve_ne_nil root, root]

theorem present_of_find? {entry : Entry} (found : store.find? (store.resolve path) = some entry) :
    store.present path = true := by
  rw [← Bool.not_eq_false, present_eq_false_iff, found]
  rintro ⟨_, absent⟩
  cases absent

theorem read_eq_some_iff :
    store.read path = some content ↔
      store.find? (store.resolve path) = some (.file content) := by
  unfold read
  constructor
  · intro found
    split at found
    next held equal => rw [equal, Option.some.inj found]
    next => cases found
  · intro found
    rw [found]

theorem openRead_of_read (held : store.read path = some content) :
    store.openRead path = .ok ⟨content.toList⟩ := by
  rw [openRead, read_eq_some_iff.mp held]

/-! ## Removing a file -/

theorem removeFile_eq_ok_iff {after : Store} :
    store.removeFile path = .ok after ↔
      ∃ content, store.read path = some content ∧ after = store.erase (store.resolve path) := by
  constructor
  · intro removed
    simp only [removeFile] at removed
    split at removed
    next content found =>
      exact ⟨content, read_eq_some_iff.mpr found, (Except.ok.inj removed).symm⟩
    next => cases removed
    next => cases removed
  · rintro ⟨content, held, rfl⟩
    simp only [removeFile, read_eq_some_iff.mp held]

/-! ## Writing a file -/

/-- The store with a file opened, written as a whole and closed. -/
def writeFile (store : Store) (path content : String) : Except FileError Store :=
  match store.openWrite path with
  | .ok (writer, opened) => .ok ((writer.write content).commit opened)
  | .error error => .error error

/-- A file can be written exactly if no directory is in its place and the directory
around it is there; nothing else is changed. -/
theorem writeFile_eq_ok_iff {after : Store} :
    store.writeFile path content = .ok after ↔
      store.find? (store.resolve path) ≠ some .directory ∧
        (store.lookupLocation (store.resolve path).parent).isSome ∧
          after = store.put (store.resolve path) (.file content) := by
  simp only [writeFile, openWrite]
  by_cases occupied : store.find? (store.resolve path) = some .directory
  · simp [occupied]
  · by_cases homeless : (store.lookupLocation (store.resolve path).parent).isNone
    · have missing := Option.isNone_iff_eq_none.mp homeless
      simp [occupied, missing]
    · have there : (store.lookupLocation (store.resolve path).parent).isSome :=
        Option.isSome_iff_ne_none.mpr (mt Option.isNone_iff_eq_none.mpr homeless)
      rw [if_neg occupied, if_neg homeless]
      simp [occupied, there, Writer.write, Writer.commit, eq_comm]

/-- Why no file can be written at a path, if there is a reason. -/
def refusal? (store : Store) (path : String) : Option FileError :=
  if store.find? (store.resolve path) = some .directory then some (.isADirectory path)
  else if (store.lookupLocation (store.resolve path).parent).isNone then
    some (.noEntry (store.resolve path).parent.toPath)
  else none

theorem openWrite_eq (store : Store) (path : String) :
    store.openWrite path =
      match store.refusal? path with
      | some error => .error error
      | none => .ok (⟨store.resolve path, ""⟩, store.put (store.resolve path) (.file "")) := by
  simp only [openWrite, refusal?]
  split
  · rfl
  split <;> rfl

/-- The reason does not depend on what is to be written. -/
theorem writeFile_eq (store : Store) (path content : String) :
    store.writeFile path content =
      match store.refusal? path with
      | some error => .error error
      | none => .ok (store.put (store.resolve path) (.file content)) := by
  rw [writeFile, openWrite_eq]
  cases store.refusal? path with
  | some error => rfl
  | none => simp only [Writer.write, Writer.commit, String.empty_append, put_put]

theorem writeFile_eq_error_iff {error : FileError} :
    store.writeFile path content = .error error ↔ store.refusal? path = some error := by
  rw [writeFile_eq]
  cases store.refusal? path <;> simp

theorem exists_writeFile_eq_ok_iff :
    (∃ after, store.writeFile path content = .ok after) ↔ store.refusal? path = none := by
  rw [writeFile_eq]
  cases store.refusal? path <;> simp

/-! ## Without links -/

section Linkless

variable {after : Store}

theorem Linkless.removed
    (linkless : store.Linkless)
    (removed : store.removeFile path = .ok after) :
    after.Linkless := by
  obtain ⟨_, _, rfl⟩ := removeFile_eq_ok_iff.mp removed
  exact linkless.erase _

theorem Linkless.written
    (linkless : store.Linkless)
    (written : store.writeFile path content = .ok after) :
    after.Linkless := by
  obtain ⟨_, _, rfl⟩ := writeFile_eq_ok_iff.mp written
  exact linkless.put (by simp)

/-- Removing a file leaves all other entries alone. -/
theorem Linkless.find?_removed
    (linkless : store.Linkless)
    (removed : store.removeFile path = .ok after)
    (other : location ≠ .ofPath path) :
    after.find? location = store.find? location := by
  obtain ⟨_, _, rfl⟩ := removeFile_eq_ok_iff.mp removed
  rw [linkless.resolve_eq]
  exact find?_erase_of_ne other

/-- Writing a file leaves all other entries alone. -/
theorem Linkless.find?_written
    (linkless : store.Linkless)
    (written : store.writeFile path content = .ok after)
    (other : location ≠ .ofPath path) :
    after.find? location = store.find? location := by
  obtain ⟨_, _, rfl⟩ := writeFile_eq_ok_iff.mp written
  rw [linkless.resolve_eq]
  exact find?_put_of_ne other

/-- What is read at a path depends on the entry of its location only. -/
theorem Linkless.read_eq
    (linkless : store.Linkless)
    (afterLinkless : after.Linkless)
    (same : after.find? (.ofPath path) = store.find? (.ofPath path)) :
    after.read path = store.read path := by
  rw [read, read, linkless.resolve_eq, afterLinkless.resolve_eq, same]

/-- A file is read where its path leads. -/
theorem Linkless.read_put (linkless : store.Linkless) (path content : String) :
    (store.put (store.resolve path) (.file content)).read path = some content := by
  rw [read_eq_some_iff, (linkless.put (by simp)).resolve_eq, linkless.resolve_eq,
    find?_put_self]

/-- What is written to a file is read back. -/
theorem Linkless.read_written
    (linkless : store.Linkless)
    (written : store.writeFile path content = .ok after) :
    after.read path = some content := by
  obtain ⟨_, _, rfl⟩ := writeFile_eq_ok_iff.mp written
  exact linkless.read_put path content

/-- Whether something is at a path depends on the entry of its location only. -/
theorem Linkless.present_eq
    (linkless : store.Linkless)
    (afterLinkless : after.Linkless)
    (same : after.find? (.ofPath path) = store.find? (.ofPath path)) :
    after.present path = store.present path := by
  have absent_iff : after.present path = false ↔ store.present path = false := by
    rw [present_eq_false_iff, present_eq_false_iff, linkless.resolve_eq, afterLinkless.resolve_eq,
      same]
  cases there : store.present path with
  | false => exact absent_iff.mpr there
  | true =>
      rw [← Bool.not_eq_false, absent_iff, there]
      exact Bool.noConfusion

theorem Linkless.openRead_eq
    (linkless : store.Linkless)
    (afterLinkless : after.Linkless)
    (same : after.find? (.ofPath path) = store.find? (.ofPath path)) :
    after.openRead path = store.openRead path := by
  rw [openRead, openRead, linkless.resolve_eq, afterLinkless.resolve_eq, same]

/-- Why a file cannot be removed depends on the entry of its location only. -/
theorem Linkless.removeFile_eq_error
    {error : FileError}
    (linkless : store.Linkless)
    (afterLinkless : after.Linkless)
    (same : after.find? (.ofPath path) = store.find? (.ofPath path))
    (refused : store.removeFile path = .error error) :
    after.removeFile path = .error error := by
  simp only [removeFile, linkless.resolve_eq] at refused
  simp only [removeFile, afterLinkless.resolve_eq, same]
  split at refused
  next => cases refused
  next => exact refused
  next => exact refused

end Linkless

end Store
end Baseline
