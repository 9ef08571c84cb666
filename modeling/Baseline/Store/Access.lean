import Baseline.FileAccess
import Baseline.Store.Handle

/-!
# Runs over a store

An in-memory store is a file system that runs can work on.
-/

namespace Baseline
namespace Store

instance : FileAccess Store where
  Reader := Reader
  Writer := Writer
  surface := Store.surface
  separator _ := "/"
  present := present
  isFile := isFile
  isDirectory := isDirectory
  list := list
  canonicalPath := canonicalPath
  workingDirectory _ := "."
  makeDirectory path := .attempt fun store => (store.makeDirectory path).map (Prod.mk ())
  removeFile path := .attempt fun store => (store.removeFile path).map (Prod.mk ())
  openRead := openRead
  readLine _ reader := (.ok reader.readLine.1, reader.readLine.2)
  readRest _ reader := (.ok reader.readRest.1, reader.readRest.2)
  remaining _ reader := reader.rest.length
  closeReader _ _ := .ok ()
  openWrite path := .attempt fun store => store.openWrite path
  write writer text := pure (writer.write text)
  closeWriter writer := fun store => (.ok (), writer.commit store)
  discardWriter writer := fun store => ((), writer.commit store)

end Store
end Baseline
