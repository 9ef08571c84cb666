/-!
# JSON values

The values that parsers produce and snapshots record.  Integers are exact.  A
number with a fraction or an exponent is kept as the text that is printed for
it.
-/

namespace Baseline

/-- A JSON value. -/
inductive Json
  /-- The null value. -/
  | null
  /-- A truth value. -/
  | bool (value : Bool)
  /-- An integer. -/
  | int (value : Int)
  /-- A floating-point number, as it is printed. -/
  | float (token : String)
  /-- A string. -/
  | string (text : String)
  /-- A list of values. -/
  | array (items : List Json)
  /-- Values under names. -/
  | object (members : List (String × Json))
  deriving Repr, Inhabited

end Baseline
