import Baseline.Command.Result
import Baseline.Disk.Access
import Baseline.Disk.Contents

/-!
# The program

The program copies what a command may look at onto a disk in memory, lets the
command work there, and takes the changes back to the host.
-/

namespace Baseline
namespace Host

/-- Nothing, where an action of the host fails. -/
def attempt {α : Type} (action : IO α) : IO (Option α) := do
  try
    return some (← action)
  catch _ =>
    return none

/-- The file or the directory of the host at a path. -/
def entryAt (path : String) : IO.FS.DirEntry :=
  ⟨".", path⟩

/-- Copy what is at a path of the host, and all below it, onto a disk.  A link
leads to what it resolves to, or to itself if it resolves to nothing.  Of files
that nobody wants only the names are copied. -/
partial def copyTree (wanted : String → Bool) (disk : Disk) (path : String) : IO Disk := do
  let known := (disk.place? path).toOption.bind fun place? => place?.bind disk.find?
  let some metadata ← attempt (entryAt path).path.symlinkMetadata | return disk
  match metadata.type with
  | .symlink =>
      if known.isSome then return disk
      let target := ((← attempt (IO.FS.realPath (entryAt path).path)).map (·.toString)).getD path
      copyTree wanted (disk.withLink path target) target
  | .dir =>
      let mut disk := disk.withDirectory path
      for entry in (← attempt (entryAt path).path.readDir).getD #[] do
        disk ← copyTree wanted disk (Path.join path "/" entry.fileName)
      return disk
  | _ =>
      if known.isSome then return disk
      if !wanted path then return disk.withFile path []
      let bytes ← attempt (IO.FS.readBinFile (entryAt path).path)
      return disk.withFile path ((bytes.map (·.data.toList)).getD [])

/-- Copy the links and the directories that the parts of a path lead through, and
then all that is at the path. -/
def copyParts (wanted : String → Bool) (disk : Disk) (path : String) : List String → IO Disk
  | [] => return disk
  | [name] => copyTree wanted disk (path ++ name)
  | name :: rest => do
      let outer := path ++ name
      let some metadata ← attempt (entryAt outer).path.symlinkMetadata | return disk
      let disk ← match metadata.type with
        | .dir => pure (disk.withDirectory outer)
        | _ => copyTree wanted disk outer
      copyParts wanted disk (outer ++ "/") rest

/-- Copy what is at a path, and the way to it. -/
def copyPath (wanted : String → Bool) (disk : Disk) (path : String) : IO Disk :=
  let route := Route.ofPath path
  copyParts wanted disk (Disk.origin route) route.parts

/-- Copy what an invocation may look at. -/
def copyFor (disk : Disk) (invocation : Invocation) : IO Disk := do
  let disk ← copyPath (fun _ => true) disk invocation.settingsFile
  match Command.settings disk invocation with
  | .error _ => return disk
  | .ok settings =>
      let extensions := settings.extensions
      let wanted (path : String) : Bool :=
        [extensions.source, extensions.reference, extensions.actual].any (Path.hasExtension path)
      let disk ← copyPath wanted disk settings.root
      match Command.expectedFile? invocation settings with
      | some path => copyPath (fun _ => true) disk path
      | none => return disk

/-- Take the changes of a disk over to the host. -/
def takeOver (before after : Disk) : IO Unit := do
  let left := after.filesBelow []
  let found := before.filesBelow []
  for (location, _) in found do
    if (left.lookup location).isNone then IO.FS.removeFile (Disk.absolutePath location)
  for (location, bytes) in left do
    if found.lookup location != some bytes then
      IO.FS.writeBinFile (Disk.absolutePath location) ⟨bytes.toArray⟩

/-- Run the command on the files of the host. -/
def run (arguments : List String) : IO CommandResult := do
  let directory ← IO.FS.realPath "."
  let disk := Disk.empty (Route.ofPath directory.toString).parts
  let before ← match Invocation.ofArguments arguments with
    | .ok invocation => copyFor disk invocation
    | .error _ => pure disk
  let (result, after) := (Command.execute arguments).run before
  takeOver before after
  return result

end Host
end Baseline

/-- The program: its output goes to the standard output, and its exit code is that
of the command. -/
def main (arguments : List String) : IO UInt32 := do
  let result ← Baseline.Host.run arguments
  result.diagnostics.forM IO.eprintln
  result.output.forM IO.println
  return result.exitCode.toUInt32
