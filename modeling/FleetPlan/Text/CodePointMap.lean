import FleetPlan.Text.CodePoints

/-!
# Maps of code points

A table of a standard that gives some code points a text of their own. It is
written as text: before the colon a code point or a range in hexadecimal, with
`/2` for every second one, and after it the code points that stand for the first
of them; a range counts on from there.
-/

namespace FleetPlan.Text

/-- Consecutive code points and what stands for them. -/
structure MappedRange where
  first : Nat
  last : Nat
  step : Nat
  images : List Nat

/-- A map from code points, as ranges in ascending order. -/
structure CodePointMap where
  ranges : Array MappedRange

namespace CodePointMap

/-- What has been read of a table: the finished ranges, the numbers before the mark that was read
last, and the number being read. -/
structure Partial where
  ranges : Array MappedRange
  first : Option Nat
  last : Option Nat
  step : Nat
  images : List Nat
  number : Option Nat

/-- The reading before any character of a range. -/
def Partial.start (ranges : Array MappedRange) : Partial :=
  ⟨ranges, none, none, 1, [], none⟩

/-- Finish the range that is being read, if there is one. -/
def Partial.finish (reading : Partial) : Partial :=
  match reading.first, reading.number with
  | some first, some image =>
    .start (reading.ranges.push
      ⟨first, reading.last.getD first, reading.step, (image :: reading.images).reverse⟩)
  | _, _ => .start reading.ranges

/-- Read one character of a table. -/
def Partial.read (reading : Partial) (next : Char) : Partial :=
  match hexDigit? next with
  | some digit => { reading with number := some (16 * reading.number.getD 0 + digit) }
  | none =>
    match next with
    | '-' => { reading with first := reading.number, number := none }
    | '/' => { reading with last := reading.number, number := none }
    | ':' =>
      match reading.first, reading.last with
      | none, _ => { reading with first := reading.number, number := none }
      | some _, none => { reading with last := reading.number, number := none }
      | some _, some _ => { reading with step := reading.number.getD 1, number := none }
    | '+' => { reading with images := reading.number.toList ++ reading.images, number := none }
    | _ => reading.finish

/-- The map that a text writes. -/
def ofText (written : String) : CodePointMap :=
  ⟨(written.toList.foldl Partial.read (.start #[])).finish.ranges⟩

end CodePointMap

/-- What a range puts in place of one of its code points. -/
def MappedRange.images? (range : MappedRange) (point : Nat) : Option (List Nat) :=
  if range.first ≤ point ∧ point ≤ range.last ∧ (point - range.first) % range.step = 0 then
    match range.images with
    | [image] => some [image + (point - range.first)]
    | images => some images
  else none

/-- What stands for a code point, if the map has it. -/
def CodePointMap.images? (map : CodePointMap) (point : Nat) : Option (List Nat) :=
  (lastBelow MappedRange.first map.ranges point 0 map.ranges.size).bind (·.images? point)

end FleetPlan.Text
