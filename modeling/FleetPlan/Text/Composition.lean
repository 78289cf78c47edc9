import FleetPlan.Text.Composition.Tables
import Std.Data.HashMap

/-!
# Composed characters

A letter with marks can be written as one character or as several. In composed
form it is written with as few as possible: every character is taken apart, the
marks after a letter are put in order, and each mark that a composed character
has a place for is drawn into its letter. A mark is out of reach when another one
that is bound at least as strongly stands before it.
-/

namespace FleetPlan.Text

/-- The syllables of Hangul, which are put together from a lead, a vowel and perhaps a tail. -/
def firstSyllable : Nat := 0xac00

/-- The first lead. -/
def firstLead : Nat := 0x1100

/-- The first vowel. -/
def firstVowel : Nat := 0x1161

/-- The code point before the first tail, which stands for having none. -/
def noTail : Nat := 0x11a7

/-- The number of leads. -/
def leadCount : Nat := 19

/-- The number of vowels. -/
def vowelCount : Nat := 21

/-- The number of ways to end a syllable, one of which is without a tail. -/
def tailCount : Nat := 28

/-- The two code points that a composed one is put together from. -/
def parts? (point : Nat) : Option (Nat × Nat) :=
  let index := point - firstSyllable
  if firstSyllable ≤ point ∧ index < leadCount * vowelCount * tailCount then
    if index % tailCount = 0 then
      some (firstLead + index / tailCount / vowelCount, firstVowel + index / tailCount % vowelCount)
    else some (point - index % tailCount, noTail + index % tailCount)
  else
    match compositions.images? point with
    | some [first, second] => some (first, second)
    | _ => none

/-- The composed code points by their parts, other than the syllables of Hangul. -/
def wholeOfParts : Std.HashMap (Nat × Nat) Nat :=
  compositions.ranges.foldl
    (fun table range =>
      match range.images with
      | [first, second] => table.insert (first, second) range.first
      | _ => table)
    {}

/-- The code point that two code points are put together to. -/
def whole? (first second : Nat) : Option Nat :=
  let lead := first - firstLead
  let vowel := second - firstVowel
  let index := first - firstSyllable
  let tail := second - noTail
  if firstLead ≤ first ∧ lead < leadCount ∧ firstVowel ≤ second ∧ vowel < vowelCount then
    some (firstSyllable + (lead * vowelCount + vowel) * tailCount)
  else if firstSyllable ≤ first ∧ index < leadCount * vowelCount * tailCount ∧
      index % tailCount = 0 ∧ noTail < second ∧ tail < tailCount then
    some (first + tail)
  else wholeOfParts[(first, second)]?

/-- How strongly a mark is bound to what it stands on; zero for everything that is no mark. -/
def markRank (point : Nat) : Nat :=
  ((markClasses.find? (·.marks.contains point)).map MarkClass.rank).getD 0

/-- How often the first part of a character can be a composed character again. -/
def deepestComposition : Nat := 3

/-- What a code point is put together from, taken apart a number of times. -/
def takeApart : (times : Nat) → Nat → List Nat
  | 0, point => [point]
  | times + 1, point =>
    match parts? point with
    | some (first, second) => takeApart times first ++ [second]
    | none => [point]

/-- A code point in a text that is taken apart. -/
structure Piece where
  point : Nat
  rank : Nat
  deriving DecidableEq

/-- A code point as a piece. -/
def Piece.ofPoint (point : Nat) : Piece := ⟨point, markRank point⟩

/-- Put a piece before pieces in order: a mark goes behind the marks that are of a lower rank. -/
def Piece.placeBefore (piece : Piece) : List Piece → List Piece
  | [] => [piece]
  | next :: rest =>
    if next.rank ≠ 0 ∧ next.rank < piece.rank then next :: piece.placeBefore rest
    else piece :: next :: rest

/-- The pieces of a text in order. -/
def orderedPieces (text : List Char) : List Piece :=
  ((text.flatMap fun character => takeApart deepestComposition character.toNat).map
    Piece.ofPoint).foldr Piece.placeBefore []

/-- Draw pieces into the letter before them where they belong to it. The marks between the letter
and the rest, which stay as they are, stand nearest first. -/
def drawIn (letter : Nat) (between : List Piece) : List Piece → List Nat
  | [] => letter :: (between.reverse.map Piece.point)
  | piece :: rest =>
    let isReached :=
      match between with
      | [] => true
      | nearest :: _ => nearest.rank < piece.rank
    match if isReached then whole? letter piece.point else none with
    | some whole => drawIn whole between rest
    | none =>
      if piece.rank = 0 then
        letter :: (between.reverse.map Piece.point) ++ drawIn piece.point [] rest
      else drawIn letter (piece :: between) rest

/-- A text in composed form. -/
def compose (text : List Char) : List Char :=
  match orderedPieces text with
  | [] => []
  | first :: rest => (drawIn first.point [] rest).map Char.ofNat

end FleetPlan.Text
