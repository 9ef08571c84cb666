import Baseline.Text.Pieces
import Baseline.Toml.Basic

/-!
# TOML numbers, truth values and times

Values that are written without quotes or brackets.  Each is a run of characters
that ends before a blank, a comma, a bracket or a comment, and the whole run
must have the form of one kind of value.
-/

namespace Baseline
namespace Toml

/-- The characters of an unquoted value. -/
def inScalar (char : Char) : Bool :=
  char.isAlphanum || char == '_' || char == '+' || char == '-' || char == '.' || char == ':'

/-- Digits with single low lines between them, and at least one digit. -/
def isGrouped (isDigit : Char → Bool) (text : List Char) : Bool :=
  (Text.pieces '_' text).all fun piece => !piece.isEmpty && piece.all isDigit

/-- Hexadecimal digits. -/
def isHexDigit (char : Char) : Bool :=
  char.isDigit || ('a' ≤ char && char ≤ 'f') || ('A' ≤ char && char ≤ 'F')

/-- The value of a hexadecimal digit. -/
def digitValue (char : Char) : Nat :=
  if char.isDigit then char.toNat - '0'.toNat
  else if char.isLower then char.toNat - 'a'.toNat + 10
  else char.toNat - 'A'.toNat + 10

/-- The number that digits stand for in a base; low lines do not count. -/
def numeral (base : Nat) (text : List Char) : Nat :=
  (text.filter (· != '_')).foldl (fun value char => value * base + digitValue char) 0

/-- The text without one leading sign, and whether that is a minus. -/
def splitSign : List Char → Bool × List Char
  | '-' :: rest => (true, rest)
  | '+' :: rest => (false, rest)
  | text => (false, text)

/-- A decimal number without needless leading zeros. -/
def isWhole (text : List Char) : Bool :=
  isGrouped Char.isDigit text && (text.length = 1 || text.head? != some '0')

/-- A number that fits into a signed word of 64 bits. -/
def inRange (value : Int) : Bool :=
  -Int.pow 2 63 ≤ value && value < Int.pow 2 63

/-- A whole number as a value. -/
def integer? (text : List Char) : Option Toml :=
  let value? : Option Int :=
    match text with
    | '0' :: 'x' :: digits =>
        if isGrouped isHexDigit digits then some (numeral 16 digits) else none
    | '0' :: 'o' :: digits =>
        if isGrouped (fun char => '0' ≤ char && char ≤ '7') digits then some (numeral 8 digits)
        else none
    | '0' :: 'b' :: digits =>
        if isGrouped (fun char => char == '0' || char == '1') digits then some (numeral 2 digits)
        else none
    | _ =>
        let (negative, digits) := splitSign text
        if isWhole digits then
          some (if negative then -(numeral 10 digits : Int) else numeral 10 digits)
        else none
  match value? with
  | some value => if inRange value then some (.integer value) else none
  | none => none

/-- Digits scaled by a power of ten reach beyond the largest double. -/
def overflows (digits : Nat) (exponent : Int) : Bool :=
  let size : Int := (Nat.toDigits 10 digits).length + exponent
  if digits = 0 ∨ size ≤ 308 then false
  else if 309 < size then true
  else
    (Nat.pow 2 1024 - Nat.pow 2 970) * Nat.pow 10 (-exponent).toNat ≤
      digits * Nat.pow 10 exponent.toNat

/-- The exponent of a floating-point number, given without its mark. -/
def exponent? (text : List Char) : Option Int :=
  let (negative, digits) := splitSign text
  if isGrouped Char.isDigit digits then
    some (if negative then -(numeral 10 digits : Int) else numeral 10 digits)
  else none

/-- The parts of a decimal number before and after the exponent mark. -/
def splitExponent (text : List Char) : List Char × Option (List Char) :=
  let isMark (char : Char) : Bool := char == 'e' || char == 'E'
  match text.dropWhile fun char => !isMark char with
  | [] => (text, none)
  | _ :: rest => (text.takeWhile fun char => !isMark char, some rest)

/-- A floating-point number as a value.  Numbers above the largest double are
refused. -/
def float? (text : List Char) : Option Toml := do
  let (negative, unsigned) := splitSign text
  if unsigned = ['i', 'n', 'f'] ∨ unsigned = ['n', 'a', 'n'] then return .float
  let (number, exponentText) := splitExponent unsigned
  let (whole, fraction) ←
    match Text.pieces '.' number with
    | [whole] => if exponentText.isSome then some (whole, []) else none
    | [whole, fraction] => if isGrouped Char.isDigit fraction then some (whole, fraction) else none
    | _ => none
  if !isWhole whole then failure
  let exponent ← (exponentText.map exponent?).getD (some 0)
  let places := (fraction.filter (· != '_')).length
  if !negative && overflows (numeral 10 (whole ++ fraction)) (exponent - places) then failure
  return .float

/-- A number of exactly two digits within bounds. -/
def twoDigits? (least most : Nat) : List Char → Option Nat
  | [tens, ones] =>
      if tens.isDigit && ones.isDigit then
        let value := numeral 10 [tens, ones]
        if least ≤ value ∧ value ≤ most then some value else none
      else none
  | _ => none

/-- The number of days of a month. -/
def daysIn (year month : Nat) : Nat :=
  if month = 2 then
    if year % 4 = 0 ∧ (year % 100 ≠ 0 ∨ year % 400 = 0) then 29 else 28
  else if month = 4 ∨ month = 6 ∨ month = 9 ∨ month = 11 then 30
  else 31

/-- A day of the calendar: year, month and day. -/
def isDate (text : List Char) : Bool :=
  match Text.pieces '-' text with
  | [year, month, day] =>
      year.length = 4 && year.all Char.isDigit &&
        match twoDigits? 1 12 month with
        | some month => (twoDigits? 1 (daysIn (numeral 10 year) month) day).isSome
        | none => false
  | _ => false

/-- A time of the day: hour, minute and second, perhaps with a fraction. -/
def isTime (text : List Char) : Bool :=
  match Text.pieces ':' text with
  | [hour, minute, second] =>
      (twoDigits? 0 23 hour).isSome && (twoDigits? 0 59 minute).isSome &&
        match Text.pieces '.' second with
        | [second] => (twoDigits? 0 60 second).isSome
        | [second, fraction] =>
            (twoDigits? 0 60 second).isSome && !fraction.isEmpty && fraction.all Char.isDigit
        | _ => false
  | _ => false

/-- A distance from universal time in hours and minutes. -/
def isOffset (text : List Char) : Bool :=
  match Text.pieces ':' text with
  | [hour, minute] => (twoDigits? 0 23 hour).isSome && (twoDigits? 0 59 minute).isSome
  | _ => false

/-- A time of the day, perhaps with its distance from universal time. -/
def isZonedTime (text : List Char) : Bool :=
  let isMark (char : Char) : Bool := char == 'Z' || char == 'z' || char == '+' || char == '-'
  let time := text.takeWhile fun char => !isMark char
  match text.dropWhile fun char => !isMark char with
  | [] => isTime time
  | ['Z'] | ['z'] => isTime time
  | '+' :: offset | '-' :: offset => isTime time && isOffset offset
  | _ => false

/-- A date, a time, or a date and a time with a letter between them. -/
def isDatetime (text : List Char) : Bool :=
  isDate text || isTime text ||
    (isDate (text.take 10) &&
      match text.drop 10 with
      | 'T' :: time | 't' :: time => isZonedTime time
      | _ => false)

/-- The value that a run of characters stands for. -/
def scalar? (text : List Char) : Option Toml :=
  if text = ['t', 'r', 'u', 'e'] then some (.boolean true)
  else if text = ['f', 'a', 'l', 's', 'e'] then some (.boolean false)
  else if isDatetime text then some .datetime
  else (integer? text).orElse fun _ => float? text

end Toml
end Baseline
