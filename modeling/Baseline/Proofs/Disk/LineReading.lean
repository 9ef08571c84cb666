import Baseline.Disk.Access
import Baseline.Proofs.Compare.Reading
import Baseline.Proofs.LineReading
import Baseline.Proofs.Text.LineColumn

/-!
# Reading a disk by lines

A disk and a store that hold the same text answer the same lines, apart from a carriage return
at the end of the text: no line feed follows it, so it is no part of a line break and the disk
answers it, but the store drops it (`lines_agree_iff`).
-/

namespace Baseline

namespace Text

variable
  {bytes : List UInt8}
  {line : List Char}

theorem firstLine_append (feedless : lineFeed ∉ bytes) (rest : List UInt8) :
    firstLine (bytes ++ rest) = bytes ++ firstLine rest := by
  induction bytes with
  | nil => rfl
  | cons byte later inductionHypothesis =>
      obtain ⟨other, laterFeedless⟩ := not_or.mp (mt List.mem_cons.mpr feedless)
      rw [List.cons_append, firstLine, if_neg (Ne.symm other), inductionHypothesis laterFeedless,
        List.cons_append]

theorem lineFeed_not_mem_encode (feedless : '\n' ∉ line) :
    lineFeed ∉ encode (String.ofList line) := by
  rw [← List.count_eq_zero, count_lineFeed_encode, List.count_eq_zero]
  exact feedless

theorem encode_append (left right : List Char) :
    encode (String.ofList (left ++ right)) =
      encode (String.ofList left) ++ encode (String.ofList right) := by
  simp only [LineIndex.encode_ofList, List.flatMap_append]

end Text

namespace Disk

variable
  {disk : Disk}
  {reader : Reader}
  {first rest line text : List Char}

/-- A name in the working directory leads to the file there. -/
theorem lookup_name
    {name : String}
    {number : Nat}
    (routed : route name = .ok ⟨false, [name], false⟩)
    (notDot : name ≠ ".")
    (notDots : name ≠ "..")
    (short : ¬nameLimit < name.utf8ByteSize)
    (inside : disk.find? disk.workingDirectory = some .directory)
    (found : disk.find? (disk.workingDirectory ++ [name]) = some (.file number)) :
    disk.lookup name = .ok (disk.workingDirectory ++ [name], .file number) := by
  have arrived : disk.walk linkLimit (disk.workingDirectory ++ [name]) [] =
      .ok (disk.workingDirectory ++ [name]) := by
    rw [walk]
  have walked : disk.walk linkLimit disk.workingDirectory [name] =
      .ok (disk.workingDirectory ++ [name]) := by
    rw [walk, if_neg (not_not.mpr inside), if_neg notDot, if_neg notDots, if_neg short, found]
    exact arrived
  rw [lookup, routed]
  change (disk.walk linkLimit disk.workingDirectory [name]).mapError FileError.system >>= _ = _
  rw [walked]
  simp only [Except.mapError, bind, Except.bind, found]
  rfl

namespace Reader

/-- The reader is open on a file, and the bytes ahead of it are those of the text. -/
def Holds (disk : Disk) (reader : Reader) (text : List Char) : Prop :=
  reader ≠ .directory ∧ reader.ahead disk = Text.encode (String.ofList text)

theorem take_eq
    {part : List UInt8 → List UInt8}
    {content : String}
    (isFile : reader ≠ .directory)
    (part_eq : part (reader.ahead disk) = Text.encode content) :
    reader.take disk part = (.ok content, reader.advance disk (Text.encode content).length) := by
  cases reader with
  | directory => exact absurd rfl isFile
  | file number offset fetched => simp only [take, part_eq, Text.decode?_encode]

/-- What comes up to the first line feed is answered without its break, and the rest is
ahead. -/
theorem Holds.readLine_eq
    (holds : reader.Holds disk (first ++ rest))
    (firstLine_eq : Text.firstLine (reader.ahead disk) = Text.encode (String.ofList first)) :
    (reader.readLine disk).1 = .ok (String.ofList (Text.dropBreak first)) ∧
      (reader.readLine disk).2.Holds disk rest := by
  obtain ⟨isFile, ahead_eq⟩ := holds
  rw [Text.encode_append] at ahead_eq
  rw [readLine, take_eq isFile firstLine_eq]
  refine ⟨?_, ?_, ?_⟩
  · simp only [Except.map, String.toList_ofList]
  · cases reader with
    | directory => exact absurd rfl isFile
    | file number offset fetched => exact Reader.noConfusion
  · rw [ahead_advance, ahead_eq, List.drop_left]
    rw [ahead_eq, List.length_append]
    exact Nat.le_add_right _ _

end Reader

/-- A reader of a disk answers an unended last line as it is. -/
theorem readsLines (disk : Disk) :
    FileAccess.ReadsLines disk id fun (reader : Reader) text => reader.Holds disk text where
  close_nil := rfl
  readLine_ended := by
    intro reader line rest feedless holds
    have feed : Text.encode (String.ofList ('\n' :: rest)) =
        Text.lineFeed :: Text.encode (String.ofList rest) := by
      rw [LineIndex.encode_ofList, LineIndex.encode_ofList]
      rfl
    have firstLine_eq : Text.firstLine (reader.ahead disk) =
        Text.encode (String.ofList (line ++ ['\n'])) := by
      rw [holds.2, Text.encode_append, Text.encode_append, feed,
        Text.firstLine_append (Text.lineFeed_not_mem_encode feedless)]
      rfl
    rw [← List.singleton_append, ← List.append_assoc] at holds
    rw [← Text.dropBreak_append_feed]
    exact holds.readLine_eq firstLine_eq
  readLine_last := by
    intro reader line feedless holds
    have firstLine_eq : Text.firstLine (reader.ahead disk) = Text.encode (String.ofList line) := by
      have whole := Text.firstLine_append (Text.lineFeed_not_mem_encode feedless) []
      rw [holds.2]
      rwa [List.append_nil, Text.firstLine, List.append_nil] at whole
    rw [← List.append_nil line] at holds
    rw [id, ← Text.dropBreak_of_not_mem feedless]
    exact holds.readLine_eq firstLine_eq

end Disk

namespace FileAccess

variable
  {store : Store}
  {disk : Disk}
  {path other text : String}
  {location : Location}
  {number : Nat}

theorem openRead_of_lookup (found : disk.lookup path = .ok (location, .file number)) :
    openRead disk path = .ok (Disk.Reader.file number 0 []) := by
  change disk.openRead path = _
  rw [Disk.openRead, found]
  rfl

theorem holds_of_content (content_eq : disk.content number = Text.encode text) :
    (Disk.Reader.file number 0 []).Holds disk text.toList := by
  refine ⟨Disk.Reader.noConfusion, ?_⟩
  rw [Disk.Reader.ahead, List.drop_zero, List.nil_append, content_eq, String.ofList_toList]

theorem lineAt_disk (content_eq : disk.content number = Text.encode text) (index : Nat) :
    lineAt disk (Disk.Reader.file number 0 []) index =
      .ok (String.ofList
        (((Text.endedLines text.toList).map Text.dropReturn ++
          [Text.lastLine text.toList])[index]?.getD [])) :=
  disk.readsLines.lineAt_eq (holds_of_content content_eq) index

theorem readText_legacyLines_disk
    (found : disk.lookup path = .ok (location, .file number))
    (content_eq : disk.content number = Text.encode text) :
    Compare.readText disk .legacyLines path =
      .ok (String.ofList
        (((Text.endedLines text.toList).map Text.dropReturn ++
          [Text.lastLine text.toList]).takeWhile fun line => !line.isEmpty).flatten) := by
  -- Each line ends in a byte of its own, so there is fuel for all of them.
  have enough : ((Text.endedLines text.toList).map Text.dropReturn ++
        [Text.lastLine text.toList]).length ≤
      ((Disk.Reader.file number 0 []).ahead disk).length + 1 := by
    rw [(holds_of_content content_eq).2, List.length_append, List.length_map,
      Text.length_endedLines, ← Text.count_lineFeed_encode]
    exact Nat.succ_le_succ List.count_le_length
  exact Compare.readText_legacyLines_eq (openRead_of_lookup found) rfl (lineAt_disk content_eq)
    enough

theorem readText_legacyLines_store (held : store.read path = some text) :
    Compare.readText store .legacyLines path =
      .ok (String.ofList
        (((Text.endedLines text.toList).map Text.dropReturn ++
          [Text.dropReturn (Text.lastLine text.toList)]).takeWhile
            fun line => !line.isEmpty).flatten) := by
  rw [Compare.readText_of_read held, ReadMode.seen_legacyLines, Text.paragraph,
    ← Text.endedLines_append_lastLine, List.map_append, List.map_singleton]

/-- The disk answers the lines of a text and then empty ones.  A store that holds the same text
answers the same, but for a carriage return at the end of the text; reading by lines shows it
unless a blank line comes before. -/
theorem lines_agree_iff
    (held : store.read path = some text)
    (found : disk.lookup other = .ok (location, .file number))
    (content_eq : disk.content number = Text.encode text) :
    ∃ reader bytes,
      openRead store path = .ok reader ∧ openRead disk other = .ok bytes ∧
        (∀ index, lineAt disk bytes index = .ok ((Text.lines text)[index]?.getD "")) ∧
        (∀ index, lineAt store reader index = lineAt disk bytes index ↔
          (index = text.toList.count '\n' → text.toList.getLast? ≠ some '\r')) ∧
        (lineAt store reader = lineAt disk bytes ↔ text.toList.getLast? ≠ some '\r') ∧
        (Compare.readText store .legacyLines path = Compare.readText disk .legacyLines other ↔
          [] ∈ (Text.endedLines text.toList).map Text.dropReturn ∨
            text.toList.getLast? ≠ some '\r') := by
  have last_iff : Text.dropReturn (Text.lastLine text.toList) = Text.lastLine text.toList ↔
      text.toList.getLast? ≠ some '\r' := by
    rw [Text.dropReturn_eq_self_iff, ne_eq, Text.getLast?_lastLine_eq_return_iff]
  have agree_iff : ∀ index, lineAt store (⟨text.toList⟩ : Store.Reader) index =
        lineAt disk (Disk.Reader.file number 0 []) index ↔
      (index = text.toList.count '\n' → text.toList.getLast? ≠ some '\r') := by
    intro index
    rw [lineAt_store, lineAt_disk content_eq, Except.ok.injEq, String.ofList_inj,
      Text.getD_concat_eq_iff, List.length_map, Text.length_endedLines, last_iff]
  refine ⟨⟨text.toList⟩, .file number 0 [], Store.openRead_of_read held,
    openRead_of_lookup found, ?_, agree_iff, ?_, ?_⟩
  · intro index
    rw [lineAt_disk content_eq, Text.getD_lines]
  · rw [funext_iff]
    simp only [agree_iff, forall_eq]
  · rw [readText_legacyLines_store held, readText_legacyLines_disk found content_eq,
      Except.ok.injEq, String.ofList_inj, Text.flatten_takeWhile_concat_eq_iff, last_iff]

/-- A carriage return at the end of a text is read apart, also when reading by lines stops
before it. -/
theorem lines_agree_iff_of_blank_line :
    let text := "é\r\n\ny\r"
    let store := Store.empty.withFile "a" text
    let disk : Disk :=
      ⟨[(["w"], .directory), (["w", "a"], .file 0)], [Text.encode text], ["w"]⟩
    store.read "a" = some text ∧ disk.lookup "a" = .ok (["w", "a"], .file 0) ∧
      disk.content 0 = Text.encode text ∧
        ∃ reader bytes,
          openRead store "a" = .ok reader ∧ openRead disk "a" = .ok bytes ∧
            lineAt store reader ≠ lineAt disk bytes ∧
              Compare.readText store .legacyLines "a" = Compare.readText disk .legacyLines "a" := by
  intro text store disk
  have held : store.read "a" = some text := by decide +kernel
  have found : disk.lookup "a" = .ok (["w", "a"], .file 0) :=
    Disk.lookup_name rfl (by decide) (by decide) (by decide) rfl rfl
  obtain ⟨reader, bytes, storeOpened, diskOpened, _, _, same_iff, legacy_iff⟩ :=
    lines_agree_iff held found rfl
  refine ⟨held, found, rfl, reader, bytes, storeOpened, diskOpened, ?_, ?_⟩
  · exact fun same => same_iff.mp same (by decide +kernel)
  · exact legacy_iff.mpr (.inl (by decide +kernel))

/-- The store drops a carriage return that no line feed follows, and the disk answers it. -/
theorem unended_return_read_apart :
    let store := Store.empty.withFile "a" "x\r"
    let disk : Disk :=
      ⟨[(["w"], .directory), (["w", "a"], .file 0)], [Text.encode "x\r"], ["w"]⟩
    store.read "a" = some "x\r" ∧ disk.lookup "a" = .ok (["w", "a"], .file 0) ∧
      disk.content 0 = Text.encode "x\r" ∧
        (∃ reader, openRead store "a" = .ok reader ∧ lineAt store reader 0 = .ok "x") ∧
          (∃ bytes, openRead disk "a" = .ok bytes ∧ lineAt disk bytes 0 = .ok "x\r") ∧
            Compare.readText store .legacyLines "a" = .ok "x" ∧
              Compare.readText disk .legacyLines "a" = .ok "x\r" := by
  intro store disk
  have held : store.read "a" = some "x\r" := by decide +kernel
  have found : disk.lookup "a" = .ok (["w", "a"], .file 0) :=
    Disk.lookup_name rfl (by decide) (by decide) (by decide) rfl rfl
  refine ⟨held, found, rfl, ⟨_, Store.openRead_of_read held, ?_⟩,
    ⟨_, openRead_of_lookup found, ?_⟩, ?_, ?_⟩
  · rw [lineAt_store]
    decide +kernel
  · rw [lineAt_disk rfl]
    decide +kernel
  · rw [readText_legacyLines_store held]
    decide +kernel
  · rw [readText_legacyLines_disk found rfl]
    decide +kernel

end FileAccess
end Baseline
