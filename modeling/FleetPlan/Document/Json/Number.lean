import FleetPlan.Document.Decimal
import FleetPlan.Document.Value
import FleetPlan.Text.Search

/-!
# Numbers in JSON

A number is an integer when it is written without fraction and exponent and fits
into 64 bits, with the sign where it has one; minus zero has no integer. Any other
number is a float, and one that rounds to no finite double cannot be read.
-/

namespace FleetPlan.Json

open FleetPlan.Decimal

/-- The parts of a written number. -/
structure NumberParts where
  negative : Bool
  whole : List Char
  /-- The digits after the point, if there is a point. -/
  fraction : Option (List Char)
  /-- The sign and the digits of the exponent, if there is one. -/
  exponent : Option (Bool × List Char)

/-- Take the exponent off a written number. -/
def cutExponent (text : List Char) : List Char × Option (Bool × List Char) :=
  let isMark := fun character => character = 'e' || character = 'E'
  match text.dropWhile fun character => !isMark character with
  | [] => (text, none)
  | _ :: exponent =>
    let front := text.takeWhile fun character => !isMark character
    match exponent with
    | '-' :: digits => (front, some (true, digits))
    | '+' :: digits => (front, some (false, digits))
    | digits => (front, some (false, digits))

/-- Take the fraction off a written number without exponent. -/
def cutFraction (text : List Char) : List Char × Option (List Char) :=
  match Text.cutFirst? ['.'] text with
  | some (whole, fraction) => (whole, some fraction)
  | none => (text, none)

/-- The parts of a text that writes a number. -/
def NumberParts.ofText? (text : List Char) : Option NumberParts :=
  let (negative, unsigned) :=
    match text with
    | '-' :: rest => (true, rest)
    | _ => (false, text)
  let (front, exponent) := cutExponent unsigned
  let (whole, fraction) := cutFraction front
  let plainWhole := isDigits whole && (whole.length = 1 || whole.head? != some '0')
  if plainWhole && fraction.all isDigits && exponent.all (isDigits ·.2) then
    some ⟨negative, whole, fraction, exponent⟩
  else none

/-- The value of a number in parts. -/
def NumberParts.value (parts : NumberParts) (written : String) : Value :=
  let whole := ofDigits parts.whole
  let integer? :=
    match parts.fraction, parts.exponent with
    | none, none =>
      if parts.negative then
        if 0 < whole && Int64.minValue.toInt ≤ -(whole : Int) then some (-(whole : Int)) else none
      else if whole < UInt64.size then some (whole : Int) else none
    | _, _ => none
  match integer? with
  | some integer => .integer integer
  | none =>
    let fraction := parts.fraction.getD []
    let (down, up) :=
      match parts.exponent with
      | some (true, digits) => (ofDigits digits, 0)
      | some (false, digits) => (0, ofDigits digits)
      | none => (0, 0)
    if isFinite (ofDigits (parts.whole ++ fraction)) up (down + fraction.length) then
      .float written
    else .unreadable

/-- The value of a text that writes a number. -/
def number? (text : List Char) : Option Value :=
  (NumberParts.ofText? text).map (·.value (String.ofList text))

end FleetPlan.Json
