import Baseline.Disk.Handle
import Baseline.FileAccess

/-!
# Runs over a disk

A disk is a file system that runs can work on.
-/

namespace Baseline
namespace Disk

instance : FileAccess Disk where
  Reader := Reader
  Writer := Writer
  surface _ := Surface.fileSystem
  separator _ := "/"
  present := present
  isFile := isFile
  isDirectory := isDirectory
  list := list
  canonicalPath := canonicalPath
  workingDirectory disk := absolutePath disk.workingDirectory
  makeDirectory path := .attempt fun disk => (disk.makeDirectory path).map (Prod.mk ())
  removeFile path := .attempt fun disk => (disk.removeFile path).map (Prod.mk ())
  openRead := openRead
  readLine disk reader := reader.readLine disk
  readRest disk reader := reader.readRest disk
  remaining disk reader := (reader.ahead disk).length
  closeReader _ _ := .ok ()
  openWrite path := .attempt fun disk => disk.openWrite path
  write writer text := fun disk =>
    let (next, disk) := writer.write (Text.encode text) disk
    (.ok next, disk)
  closeWriter writer := fun disk => (.ok (), (writer.flush disk).2)
  discardWriter writer := fun disk => ((), (writer.flush disk).2)

end Disk
end Baseline
