/-!
# Capability surfaces

A host part shows the name it is exposed under and the capabilities it offers.
-/

namespace Baseline

/-- A named set of capabilities. -/
structure Surface where
  /-- The name the part is exposed under. -/
  name : String
  /-- The capabilities it offers. -/
  capabilities : List String
  deriving DecidableEq, Repr, Inhabited

namespace Surface

/-- The surface offers the capability. -/
def offers (surface : Surface) (capability : String) : Bool :=
  surface.capabilities.contains capability

/-- The surface without one capability. -/
def hide (surface : Surface) (capability : String) : Surface :=
  { surface with capabilities := surface.capabilities.filter fun other => other != capability }

/-- What a file system offers. -/
def fileSystem : Surface where
  name := "fs"
  capabilities :=
    ["exists", "isDirectory", "isFile", "makeDirectory", "list", "open", "remove",
     "workingDirectory", "canonicalPath"]

/-- What a process offers. -/
def process : Surface where
  name := "system"
  capabilities := ["args", "execute", "exit", "print", "sleep"]

/-- What a parser offers. -/
def parser : Surface where
  name := "Reflect"
  capabilities := ["parse"]

end Surface
end Baseline
