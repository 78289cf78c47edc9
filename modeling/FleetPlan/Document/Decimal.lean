/-!
# Decimal numbers

The number that digits write, and whether a decimal with an exponent is rounded to
a finite double.
-/

namespace FleetPlan.Decimal

/-- The number that decimal digits write. -/
def ofDigits (digits : List Char) : Nat :=
  digits.foldl (fun number digit => 10 * number + (digit.toNat - '0'.toNat)) 0

/-- Whether a text is digits and has some. -/
def isDigits (text : List Char) : Bool := !text.isEmpty && text.all Char.isDigit

/-- The least decimal that is rounded beyond the doubles. -/
def beyondDoubles : Nat := Nat.pow 2 1024 - Nat.pow 2 970

/-- Whether `digits · 10 ^ (up - down)` is rounded to a finite double. -/
def isFinite (digits up down : Nat) : Bool :=
  let length := (Nat.toDigits 10 digits).length
  if digits = 0 || length + up < 300 + down then true
  else if 320 + down < length + up then false
  else digits * Nat.pow 10 up < beyondDoubles * Nat.pow 10 down

end FleetPlan.Decimal
