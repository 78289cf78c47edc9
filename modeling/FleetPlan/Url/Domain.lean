import FleetPlan.Text.Composition
import FleetPlan.Text.Search
import FleetPlan.Url.Domain.Classes
import FleetPlan.Url.Domain.Mapping
import FleetPlan.Url.Domain.Punycode

/-!
# Domain names

A domain name is brought to its written form by mapping each character and
composing what comes of it. It is cut into labels at its dots, and each label with
characters outside of ASCII is checked: it does not start with a mark, its joiners
stand where letters join, and where a name is written from right to left every
label keeps to one direction.
-/

namespace FleetPlan.Url.Domain

/-- ASCII characters that no domain name may contain. -/
def isForbidden (character : Char) : Bool :=
  character.toNat ≤ 0x20 || character.toNat = 0x7f ||
    ['#', '%', '/', ':', '<', '>', '?', '@', '[', '\\', ']', '^', '|'].contains character

/-- Whether a character belongs to ASCII. -/
def isAscii (character : Char) : Bool := character.toNat < 0x80

/-- What stands for one character of a name; none if the name may not contain it. -/
def mapChar (character : Char) : Option (List Char) :=
  if isAscii character then some [character.toLower]
  else if refused.contains character.toNat then none
  else if dropped.contains character.toNat then some []
  else
    match mapping.images? character.toNat with
    | some images => some (images.map Char.ofNat)
    | none => some [character]

/-- The written form of a name, before it is cut into labels. -/
def mapName (name : List Char) : Option (List Char) := do
  let mapped ← name.mapM mapChar
  let written := Text.compose mapped.flatten
  if written.any isForbidden then none else some written

/-- The mark in front of a label that is sent in the form of ASCII. -/
def encodedMark : List Char := ['x', 'n', '-', '-']

/-- The longest encoded label that is read. -/
def longestEncoded : Nat := 2000

/-- The longest label that is sent in the form of ASCII. -/
def longestDecoded : Nat := 1000

/-- Whether a character is what the mapping leaves it as. -/
def isSettled (character : Char) : Bool :=
  mapChar character = some [character]

/-- Whether a label is in written form. -/
def isWritten (label : List Char) : Bool :=
  label.all isSettled && Text.compose label = label

/-- The characters that an encoded label stands for. They have to be in written form, and some of
them outside of ASCII. -/
def decodeLabel (encoded : List Char) : Option (List Char) := do
  if encoded.length > longestEncoded || !encoded.all isAscii then none
  else
    let label ← Punycode.decode encoded
    if label.all isAscii || !isWritten label then none else some label

/-- The characters of a label, decoded if it is encoded. -/
def readLabel (label : List Char) : Option (List Char) :=
  match Text.dropStart? encodedMark label with
  | some encoded => decodeLabel encoded
  | none => some label

/-- The rank of the signs that take away the vowel of the letter before them. -/
def vowelKillerRank : Nat := 9

/-- Whether letters before and after a place join across it; the nearest stand first. -/
def joinsAcross (before after : List Char) : Bool :=
  let solid := fun text : List Char =>
    text.dropWhile fun character => joiningTransparent.contains character.toNat
  match solid before, solid after with
  | left :: _, right :: _ =>
    (joiningLeft.contains left.toNat || joiningBoth.contains left.toNat) &&
      (joiningRight.contains right.toNat || joiningBoth.contains right.toNat)
  | _, _ => false

/-- Whether the joiners of a label stand where they may; what was passed stands nearest first. -/
def joinersFit : (passed label : List Char) → Bool
  | _, [] => true
  | passed, character :: label =>
    let afterKiller :=
      match passed with
      | previous :: _ => Text.markRank previous.toNat = vowelKillerRank
      | [] => false
    let fits :=
      if character.toNat = 0x200d then afterKiller
      else if character.toNat = 0x200c then afterKiller || joinsAcross passed label
      else true
    fits && joinersFit (character :: passed) label

/-- How a character is written. -/
inductive Direction where
  | leftToRight
  | rightToLeft
  | arabicNumber
  | europeanNumber
  | neutral
  | mark
  deriving DecidableEq

/-- How a character is written. -/
def direction (character : Char) : Direction :=
  let point := character.toNat
  if rightToLeft.contains point then .rightToLeft
  else if arabicNumbers.contains point then .arabicNumber
  else if europeanNumbers.contains point then .europeanNumber
  else if neutrals.contains point then .neutral
  else if directionlessMarks.contains point then .mark
  else .leftToRight

/-- Whether the last of some directions, leaving marks aside, is among the allowed ones. -/
def endsIn (allowed directions : List Direction) : Bool :=
  match directions.reverse.dropWhile (· = .mark) with
  | last :: _ => allowed.contains last
  | [] => false

/-- Whether a label keeps to the direction of its first character. -/
def isOrdered (label : List Char) : Bool :=
  let directions := label.map direction
  match directions with
  | [] => true
  | .leftToRight :: _ =>
    directions.all [.leftToRight, .europeanNumber, .neutral, .mark].contains &&
      endsIn [.leftToRight, .europeanNumber] directions
  | .rightToLeft :: _ =>
    directions.all [.rightToLeft, .arabicNumber, .europeanNumber, .neutral, .mark].contains &&
      endsIn [.rightToLeft, .arabicNumber, .europeanNumber] directions &&
      !(directions.contains .arabicNumber && directions.contains .europeanNumber)
  | _ => false

/-- Whether a label has a character that is written from right to left. -/
def hasRightToLeft (label : List Char) : Bool :=
  label.any fun character => [.rightToLeft, .arabicNumber].contains (direction character)

/-- Whether the characters of one label may stand together. -/
def isLabel (label : List Char) : Bool :=
  label.all isAscii ||
    (label.length ≤ longestDecoded && joinersFit [] label &&
      match label with
      | first :: _ => !marks.contains first.toNat
      | [] => true)

/-- Whether the labels of a name may stand together. -/
def areLabels (labels : List (List Char)) : Bool :=
  labels.all isLabel && (!labels.any hasRightToLeft || labels.all isOrdered)

/-- The written labels of a name, if it is a domain name. -/
def labels? (name : List Char) : Option (List (List Char)) := do
  let written ← mapName name
  let labels := Text.splitAt '.' written
  let decoded ← labels.mapM readLabel
  if areLabels decoded then some labels else none

end FleetPlan.Url.Domain
