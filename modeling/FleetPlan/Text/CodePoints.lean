/-!
# Sets of code points

A character class of a standard is a list of ranges of code points in ascending
order. Long classes are written as text, with a range `lo-hi` or a single code
point in hexadecimal between blanks, and read once by `CodePoints.ofText`.
-/

namespace FleetPlan.Text

/-- A set of code points, as inclusive ranges in ascending order. -/
structure CodePoints where
  ranges : Array (Nat × Nat)

/-- The value of a hexadecimal digit, in either case. -/
def hexDigit? (digit : Char) : Option Nat :=
  if '0' ≤ digit ∧ digit ≤ '9' then some (digit.toNat - '0'.toNat)
  else if 'a' ≤ digit ∧ digit ≤ 'f' then some (digit.toNat - 'a'.toNat + 10)
  else if 'A' ≤ digit ∧ digit ≤ 'F' then some (digit.toNat - 'A'.toNat + 10)
  else none

/-- The last of some ranges in ascending order that starts at or before a code point, by halving
the ranges from `low` on. -/
def lastBelow {α : Type} (start : α → Nat) (ranges : Array α) (point : Nat) :
    (low width : Nat) → Option α
  | low, 0 => if low = 0 then none else ranges[low - 1]?
  | low, width + 1 =>
    let middle := low + (width + 1) / 2
    match ranges[middle]? with
    | some range =>
      if start range ≤ point then
        lastBelow start ranges point (middle + 1) (width + 1 - (width + 1) / 2 - 1)
      else lastBelow start ranges point low ((width + 1) / 2)
    | none => none
termination_by _ width => width

namespace CodePoints

/-- What has been read of a range: its start once a hyphen ended it, and the number so far. -/
structure Partial where
  start : Option Nat
  number : Option Nat

/-- The range that ends where the reading stands. -/
def Partial.range? (read : Partial) : Option (Nat × Nat) :=
  read.number.map fun last => (read.start.getD last, last)

/-- Read one character of the written form. -/
def readStep (state : Array (Nat × Nat) × Partial) (next : Char) : Array (Nat × Nat) × Partial :=
  match hexDigit? next with
  | some digit =>
    (state.1, { state.2 with number := some (16 * state.2.number.getD 0 + digit) })
  | none =>
    if next = '-' then (state.1, ⟨state.2.number, none⟩)
    else
      match state.2.range? with
      | some range => (state.1.push range, ⟨none, none⟩)
      | none => state

/-- The set written as hexadecimal ranges between blanks. -/
def ofText (written : String) : CodePoints :=
  let read := written.toList.foldl readStep (#[], ⟨none, none⟩)
  match read.2.range? with
  | some range => ⟨read.1.push range⟩
  | none => ⟨read.1⟩

/-- Whether a code point lies in one of the ranges. -/
def contains (set : CodePoints) (point : Nat) : Bool :=
  match lastBelow Prod.fst set.ranges point 0 set.ranges.size with
  | some range => range.1 ≤ point && point ≤ range.2
  | none => false

end CodePoints

end FleetPlan.Text
