import Baseline.Disk.Operation
import Baseline.Text.LineBreaks

/-!
# Open files of a disk

Bytes go between a disk and an open file in blocks.  A reader fetches the next
block when it runs short, and never looks again at what it fetched.  A writer
collects bytes and puts them on the disk when a block is full; the rest goes to
the disk when the file is closed.
-/

namespace Baseline
namespace Disk

/-- The number of bytes in a block. -/
def blockSize : Nat := 8192

/-- What is open for reading. -/
inductive Reader
  /-- A file, the number of bytes fetched from it, and those of them that are not
  read yet. -/
  | file (number : Nat) (offset : Nat) (fetched : List UInt8)
  /-- A directory, from which nothing can be read. -/
  | directory
  deriving DecidableEq, Repr

namespace Reader

/-- The bytes to be read next. -/
def ahead (disk : Disk) : Reader → List UInt8
  | .file number offset fetched => fetched ++ (disk.content number).drop offset
  | .directory => []

/-- The reader after a number of bytes, with as many blocks fetched as it
takes. -/
def advance (disk : Disk) (count : Nat) : Reader → Reader
  | .file number offset fetched =>
      let missing := count - fetched.length
      let blocks := (missing + blockSize - 1) / blockSize
      let block := ((disk.content number).drop offset).take (blocks * blockSize)
      .file number (offset + block.length) ((fetched ++ block).drop count)
  | .directory => .directory

/-- A reader that has advanced has the remaining bytes ahead of it. -/
theorem ahead_advance
    (disk : Disk)
    (count : Nat)
    (reader : Reader)
    (enough : count ≤ (reader.ahead disk).length) :
    (reader.advance disk count).ahead disk = (reader.ahead disk).drop count := by
  cases reader with
  | directory => simp [advance, ahead]
  | file number offset fetched =>
      simp only [ahead, List.length_append] at enough
      simp only [advance, ahead]
      generalize disk.content number = content at enough ⊢
      generalize sizeEquality : (count - fetched.length + blockSize - 1) / blockSize * blockSize =
        size
      have covers : count - fetched.length ≤ size := by
        simp only [blockSize] at sizeEquality
        omega
      have cut : fetched ++ content.drop offset =
          (fetched ++ (content.drop offset).take size) ++ (content.drop offset).drop size := by
        rw [List.append_assoc, List.take_append_drop]
      have within : count ≤ (fetched ++ (content.drop offset).take size).length := by
        simp only [List.length_append, List.length_take]
        omega
      rw [cut, List.drop_append_of_le_length within]
      congr 1
      simp only [List.drop_drop, List.length_take, List.length_drop]
      rcases Nat.le_total size (content.length - offset) with small | large
      · rw [Nat.min_eq_left small]
      · rw [Nat.min_eq_right large, List.drop_eq_nil_of_le (by omega),
          List.drop_eq_nil_of_le (by omega)]

/-- Take bytes from the start of those ahead, as a text. -/
def take (disk : Disk) (part : List UInt8 → List UInt8) (reader : Reader) :
    Except FileError String × Reader :=
  match reader with
  | .directory => (.error (.system .isADirectory), reader)
  | _ =>
      let bytes := part (reader.ahead disk)
      let next := reader.advance disk bytes.length
      match Text.decode? bytes with
      | some text => (.ok text, next)
      | none => (.error .notText, next)

/-- The next line without its break; bytes that are not text are passed over. -/
def readLine (disk : Disk) (reader : Reader) : Except FileError String × Reader :=
  let (result, next) := reader.take disk Text.firstLine
  (result.map fun line => String.ofList (Text.dropBreak line.toList), next)

/-- All that is left; bytes that are not text are passed over. -/
def readRest (disk : Disk) (reader : Reader) : Except FileError String × Reader :=
  reader.take disk id

end Reader

/-- Open the file or the directory at the path for reading. -/
def openRead (disk : Disk) (path : String) : Except FileError Reader := do
  match (← disk.lookup path).2 with
  | .file number => return .file number 0 []
  | _ => return .directory

/-- A file open for writing. -/
structure Writer where
  /-- The number of the file. -/
  number : Nat
  /-- Where the next bytes go. -/
  offset : Nat := 0
  /-- The bytes that are not on the disk yet. -/
  pending : List UInt8 := []
  deriving DecidableEq, Repr

/-- Bytes put into others at an offset; a gap before them is filled with
zeros. -/
def overwrite (content : List UInt8) (offset : Nat) (bytes : List UInt8) : List UInt8 :=
  content.take offset ++ List.replicate (offset - content.length) 0 ++ bytes ++
    content.drop (offset + bytes.length)

namespace Writer

/-- Put bytes on the disk. -/
def put (bytes : List UInt8) (writer : Writer) (disk : Disk) : Writer × Disk :=
  if bytes.isEmpty then (writer, disk)
  else
    ({ writer with offset := writer.offset + bytes.length },
      disk.setContent writer.number
        (overwrite (disk.content writer.number) writer.offset bytes))

/-- Put the bytes collected on the disk. -/
def flush (writer : Writer) (disk : Disk) : Writer × Disk :=
  { writer with pending := [] }.put writer.pending disk

/-- Collect bytes. -/
def collect (bytes : List UInt8) (writer : Writer) : Writer :=
  { writer with pending := writer.pending ++ bytes }

/-- Write bytes: they are collected as long as they fit into a block, and bytes
that fill a block go to the disk at once. -/
def write (bytes : List UInt8) (writer : Writer) (disk : Disk) : Writer × Disk :=
  let (writer, disk) :=
    if blockSize < writer.pending.length + bytes.length then writer.flush disk
    else (writer, disk)
  if blockSize ≤ bytes.length then writer.put bytes disk
  else (writer.collect bytes, disk)

end Writer

/-- Open the file at the path for writing; it is created or emptied. -/
def openWrite (disk : Disk) (path : String) : Except FileError (Writer × Disk) := do
  let (number, disk) ← disk.createFile path
  return ({ number }, disk)

end Disk
end Baseline
