/-!
# TOML values

Values of the configuration language TOML, and tables that are built up one
definition at a time.  Each table remembers how it came to be, because that
decides which later definitions may add to it.
-/

namespace Baseline

namespace Toml

/-- How a table came to be. -/
inductive Origin
  /-- It has a header of its own, or it is an element of an array of tables. -/
  | header
  /-- A header names a table inside it. -/
  | implied
  /-- A dotted key names a value inside it. -/
  | dotted
  /-- It is written between braces and complete. -/
  | inline
  deriving DecidableEq, Repr

end Toml

/-- A TOML value.  Of floating-point numbers and points in time only the kind
is kept. -/
inductive Toml
  /-- A string. -/
  | string (text : String)
  /-- An integer. -/
  | integer (value : Int)
  /-- A floating-point number. -/
  | float
  /-- A truth value. -/
  | boolean (value : Bool)
  /-- A date, a time, or both. -/
  | datetime
  /-- A list of values. -/
  | array (items : List Toml)
  /-- Values under keys. -/
  | table (origin : Toml.Origin) (entries : List (String × Toml))
  /-- Tables defined one by one under headers. -/
  | tables (items : List Toml)
  deriving Repr

namespace Toml

/-- The values of a table under their keys. -/
abbrev Entries := List (String × Toml)

/-- The entries with the value of a key replaced. -/
def replace (key : String) (value : Toml) (entries : Entries) : Entries :=
  entries.map fun entry => if entry.1 = key then (key, value) else entry

/-- A change of a table that depends on how the table came to be; it may be
refused. -/
abbrev Change := Origin → Entries → Option (Origin × Entries)

/-- Change the table that the keys lead to.  Missing tables are added on the
way; of an array of tables the last one is meant.  A dotted key may not pass
through a table with a header of its own. -/
def changeAt (byDots : Bool) (change : Change) : List String → Change
  | [], origin, entries => change origin entries
  | key :: path, origin, entries =>
      match entries.lookup key with
      | none => do
          let start := if byDots then Origin.dotted else .implied
          let (inner, added) ← changeAt byDots change path start []
          return (origin, entries ++ [(key, .table inner added)])
      | some (.table inner found) =>
          if inner = .inline ∨ (byDots ∧ inner = .header) then none
          else do
            let (inner, changed) ← changeAt byDots change path inner found
            return (origin, replace key (.table inner changed) entries)
      | some (.tables items) =>
          match items.getLast? with
          | some (.table inner found) => do
              let (inner, changed) ← changeAt byDots change path inner found
              let items := items.dropLast ++ [.table inner changed]
              return (origin, replace key (.tables items) entries)
          | _ => none
      | some _ => none

/-- Define a key that has no value yet.  A key with dots may not add to a table
that other keys define, and the other way round. -/
def define (throughDots : Bool) (key : String) (value : Toml) : Change :=
  fun origin entries =>
    if decide (origin = .dotted) ≠ throughDots then none
    else if (entries.lookup key).isSome then none
    else some (origin, entries ++ [(key, value)])

/-- Define a value under a key path of which the last part is given apart. -/
def assign (path : List String) (key : String) (value : Toml) : Change :=
  changeAt true (define (!path.isEmpty) key value) path

/-- Open the table that a header names, inside its parent. -/
def openTable (key : String) : Change :=
  fun origin entries =>
    match entries.lookup key with
    | none => some (origin, entries ++ [(key, .table .header [])])
    | some (.table .implied found) => some (origin, replace key (.table .header found) entries)
    | some _ => none

/-- Open one more table of the array that a header names, inside its parent. -/
def openElement (key : String) : Change :=
  fun origin entries =>
    match entries.lookup key with
    | none => some (origin, entries ++ [(key, .tables [.table .header []])])
    | some (.tables items) =>
        some (origin, replace key (.tables (items ++ [.table .header []])) entries)
    | some _ => none

end Toml
end Baseline
