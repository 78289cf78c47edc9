/-!
# Punycode

A label of a domain name with characters outside of ASCII is sent as ASCII: its
ASCII characters, a hyphen, and a number sequence that says which other character
goes in where. `decode` reads such a label back; the numbers are written with
digits of base 36 whose thresholds adapt to the numbers before.
-/

namespace FleetPlan.Url.Punycode

/-- The largest number that a decoder keeps. -/
def limit : Nat := UInt32.size

/-- The value of a digit: letters first, then the decimal digits. -/
def digitValue? (digit : Char) : Option Nat :=
  if 'a' ≤ digit ∧ digit ≤ 'z' then some (digit.toNat - 'a'.toNat)
  else if 'A' ≤ digit ∧ digit ≤ 'Z' then some (digit.toNat - 'A'.toNat)
  else if '0' ≤ digit ∧ digit ≤ '9' then some (digit.toNat - '0'.toNat + 26)
  else none

/-- The threshold of the digit at a position, which the bias moves between 1 and 26. -/
def threshold (position bias : Nat) : Nat :=
  if position ≤ bias then 1 else if bias + 26 ≤ position then 26 else position - bias

/-- Divide by 35 until the number is small, counting 36 for each division. -/
def shrink (delta count : Nat) : Nat × Nat :=
  if 455 < delta then shrink (delta / 35) (count + 36) else (delta, count)
termination_by delta
decreasing_by exact Nat.div_lt_self (by omega) (by omega)

/-- The bias after a number, from the count of characters with the new one. -/
def adapt (delta count : Nat) (first : Bool) : Nat :=
  let scaled := if first then delta / 700 else delta / 2
  let shrunk := shrink (scaled + scaled / count) 0
  shrunk.2 + 36 * shrunk.1 / (shrunk.1 + 38)

/-- A decoding under way. -/
structure Decoding where
  /-- The characters so far. -/
  output : List Char
  /-- The code point that is inserted next, unless the number passes the end of the output. -/
  point : Nat
  /-- Where the last number left off, and where the number being read has come to. -/
  start : Nat
  index : Nat
  bias : Nat
  /-- The weight and the position of the next digit; a number is complete when the position is
  that of a first digit. -/
  weight : Nat
  position : Nat

/-- Insert the character that a complete number stands for. -/
def Decoding.insertNext (state : Decoding) : Option Decoding :=
  let count := state.output.length + 1
  let point := state.point + state.index / count
  let place := state.index % count
  if limit ≤ point then none
  else if valid : point.isValidChar then
    some {
      output := state.output.take place ++ Char.ofNatAux point valid :: state.output.drop place
      point := point
      start := place + 1
      index := place + 1
      bias := adapt (state.index - state.start) count (state.start = 0)
      weight := 1
      position := 36 }
  else none

/-- Read one digit. -/
def Decoding.read (state : Decoding) (next : Char) : Option Decoding := do
  let digit ← digitValue? next
  let index := state.index + digit * state.weight
  let bound := threshold state.position state.bias
  if limit ≤ index then none
  else if digit < bound then ({ state with index } : Decoding).insertNext
  else if limit ≤ state.weight * (36 - bound) then none
  else
    some { state with
      index, weight := state.weight * (36 - bound), position := state.position + 36 }

/-- The ASCII characters of a label and its digits: what stands before and after the last hyphen. -/
def parts (label : List Char) : List Char × List Char :=
  let digits := (label.reverse.takeWhile (· ≠ '-')).reverse
  match label.length - digits.length with
  | 0 => ([], label)
  | 1 => ([], label)
  | before => (label.take (before - 1), digits)

/-- The characters of a label, from what follows its `xn--`. -/
def decode (label : List Char) : Option (List Char) := do
  let (basic, digits) := parts label
  let state ← digits.foldlM Decoding.read ⟨basic, 128, 0, 0, 72, 1, 36⟩
  if state.position = 36 then some state.output else none

end FleetPlan.Url.Punycode
