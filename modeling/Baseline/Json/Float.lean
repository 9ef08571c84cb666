import Baseline.Decimal.Shortest
import Baseline.Json.Basic

/-!
# Floating-point numbers in JSON

A double is printed as its shortest decimal.  Magnitudes from `0.00001` to below
`10 ^ 16` are written out with a point and at least one digit after it; others
have one digit before the point, a sign in the exponent and at least two digits
after that sign.
-/

namespace Baseline
namespace Json

/-- A whole number of at least two digits. -/
def exponentDigits (exponent : Nat) : String :=
  if exponent < 10 then "0" ++ toString exponent else toString exponent

/-- A positive decimal as JSON prints it. -/
def decimalText (decimal : Decimal) : String :=
  let digits := (toString decimal.digits).toList
  let point : Int := digits.length + decimal.exponent
  if 0 ≤ decimal.exponent ∧ point ≤ 16 then
    String.ofList (digits ++ List.replicate decimal.exponent.toNat '0') ++ ".0"
  else if 0 < point ∧ point ≤ 16 then
    String.ofList (digits.take point.toNat ++ '.' :: digits.drop point.toNat)
  else if -5 < point ∧ point ≤ 0 then
    "0." ++ String.ofList (List.replicate (-point).toNat '0' ++ digits)
  else
    let leading := String.ofList (digits.take 1)
    let following := digits.drop 1
    let fraction := if following.isEmpty then "" else "." ++ String.ofList following
    let sign := if 0 < point then "e+" else "e-"
    leading ++ fraction ++ sign ++ exponentDigits (point - 1).natAbs

/-- A double given by its bits as JSON prints it. -/
def floatText (bits : Nat) : String :=
  let sign := if bits / Nat.pow 2 63 % 2 = 1 then "-" else ""
  match Binary.ofBits? bits with
  | some number => sign ++ decimalText number.shortest
  | none => sign ++ "0.0"

/-- A double as a JSON value; there is no JSON for infinities and errors. -/
def ofFloat (value : Float) : Json :=
  if value.isFinite then .float (floatText value.toBits.toNat) else .null

end Json
end Baseline
