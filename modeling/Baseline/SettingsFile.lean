import Baseline.Expected
import Baseline.RunError
import Baseline.Toml.Document

/-!
# Settings files

Settings and expected mismatches are read from TOML tables.  Keys that mean
nothing are passed over, and missing keys keep their defaults.  A value of the
wrong kind makes the file malformed.
-/

namespace Baseline
namespace Toml

/-- The value as a string. -/
def asString? : Toml → Option String
  | .string text => some text
  | _ => none

/-- The value as a truth value. -/
def asBool? : Toml → Option Bool
  | .boolean value => some value
  | _ => none

/-- The value as a number that is not negative. -/
def asNat? : Toml → Option Nat
  | .integer value => if 0 ≤ value then some value.toNat else none
  | _ => none

/-- The value has no items and no entries. -/
def isEmptyCollection : Toml → Bool
  | .array items => items.isEmpty
  | .tables items => items.isEmpty
  | .table _ entries => entries.isEmpty
  | _ => false

/-- The value as a read mode: its name, or a table with the name as its only key
and nothing under it. -/
def asReadMode? : Toml → Option ReadMode
  | .string text => ReadMode.ofName? text
  | .table _ [(name, value)] => if isEmptyCollection value then ReadMode.ofName? name else none
  | _ => none

/-- The value under a key, or a default if there is none. -/
def field?
    {α : Type}
    (entries : Entries)
    (key : String)
    (default : α)
    (read : Toml → Option α) :
    Option α :=
  match entries.lookup key with
  | some value => read value
  | none => some default

/-- The value under a key as an optional string. -/
def optional? (entries : Entries) (key : String) : Option (Option String) :=
  field? entries key none fun value => (asString? value).map some

/-- The settings that the entries of a document give. -/
def asSettings? (entries : Entries) : Option Settings := do
  let defaults : Settings := {}
  let root ← field? entries "root" defaults.root asString?
  let source ← field? entries "source_extension" defaults.extensions.source asString?
  let reference ← field? entries "reference_extension" defaults.extensions.reference asString?
  let actual ← field? entries "actual_extension" defaults.extensions.actual asString?
  let indentWidth ← field? entries "indent_width" defaults.indentWidth asNat?
  let readMode ← field? entries "read_mode" defaults.readMode asReadMode?
  let cleanStaleActuals ←
    field? entries "clean_stale_actuals" defaults.cleanStaleActuals asBool?
  let maxDepth ← field? entries "max_depth" defaults.maxDepth asNat?
  let detectCycles ← field? entries "detect_cycles" defaults.detectCycles asBool?
  let expectedFailures ← optional? entries "expected_failures"
  return {
    root, indentWidth, readMode, cleanStaleActuals, maxDepth, detectCycles, expectedFailures
    extensions := { source, reference, actual } }

/-- The entry that a list of values gives: the source, the reason, the date and
the issue, of which the first must be there. -/
def asListedEntry? : List Toml → Option MismatchEntry
  | [] => none
  | source :: rest => do
      let optionalAt (index : Nat) : Option (Option String) :=
        match rest[index]? with
        | some value => (asString? value).map some
        | none => some none
      return {
        source := ← asString? source
        reason := ← optionalAt 0
        added := ← optionalAt 1
        issue := ← optionalAt 2 }

/-- The value as an expected mismatch. -/
def asMismatchEntry? : Toml → Option MismatchEntry
  | .table _ entries => do
      return {
        source := ← (entries.lookup "source").bind asString?
        reason := ← optional? entries "reason"
        added := ← optional? entries "added"
        issue := ← optional? entries "issue" }
  | .array items => asListedEntry? items
  | _ => none

/-- The value as a list of expected mismatches. -/
def asMismatchEntries? : Toml → Option (List MismatchEntry)
  | .array items => items.mapM asMismatchEntry?
  | .tables items => items.mapM asMismatchEntry?
  | _ => none

/-- The expected mismatches that the entries of a document give. -/
def asExpected? (entries : Entries) : Option Expected := do
  let known ← field? entries "known" [] asMismatchEntries?
  let pending ← field? entries "pending" [] asMismatchEntries?
  return { known, pending }

end Toml

/-- The settings that a text gives; their extensions must not clash. -/
def Settings.ofToml (text : String) : Except SettingsError Settings :=
  match (Toml.parse? text).bind Toml.asSettings? with
  | none => .error .malformed
  | some settings =>
      match settings.extensions.clash? with
      | some pair => .error (.clash pair)
      | none => .ok settings

/-- The expected mismatches that a text gives. -/
def Expected.ofToml (text : String) : Except SettingsError Expected :=
  match (Toml.parse? text).bind Toml.asExpected? with
  | none => .error .malformed
  | some expected => .ok expected

end Baseline
