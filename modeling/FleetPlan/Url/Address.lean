import FleetPlan.Text.CodePoints
import FleetPlan.Text.Search

/-!
# Numeric host addresses

A host whose last label is a number has to be an IPv4 address of at most four
numbers, which may be octal or hexadecimal; the last number fills the bytes that
the others leave. A host between brackets has to be an IPv6 address of eight
pieces, where two colons stand for any number of zero pieces and the last two
pieces may be written as an IPv4 address.
-/

namespace FleetPlan.Url.Address

open FleetPlan.Text (hexDigit?)

/-- The number written with digits of a base, if there are only such digits. -/
def number? (base : Nat) (digits : List Char) : Option Nat :=
  digits.foldlM
    (fun number digit => do
      let value ← hexDigit? digit
      if value < base then some (base * number + value) else none)
    0

/-- A label read as a number: hexadecimal after `0x`, octal after `0`, and decimal otherwise. A
lone `0x` is zero. -/
def labelNumber? : List Char → Option Nat
  | [] => none
  | '0' :: 'x' :: digits => number? 16 digits
  | '0' :: 'X' :: digits => number? 16 digits
  | '0' :: first :: digits => number? 8 (first :: digits)
  | label => number? 10 label

/-- The labels of a name without the empty one that a final dot leaves. -/
def withoutFinalDot (labels : List (List Char)) : List (List Char) :=
  match labels.reverse with
  | [] :: front => front.reverse
  | _ => labels

/-- Whether a name has to be an address because its last label is a number. -/
def endsInNumber (labels : List (List Char)) : Bool :=
  match labels.reverse with
  | [] :: last :: _ => isNumber last
  | [[]] => false
  | last :: _ => isNumber last
  | [] => false
where
  /-- Whether a label is a number, in some base. -/
  isNumber (label : List Char) : Bool :=
    (!label.isEmpty && label.all Char.isDigit) || (labelNumber? label).isSome

/-- Whether labels are an IPv4 address. -/
def isIpv4 (labels : List (List Char)) : Bool :=
  let labels := withoutFinalDot labels
  match labels.mapM labelNumber? with
  | none => false
  | some numbers =>
    match numbers.reverse with
    | [] => false
    | last :: front =>
      numbers.length ≤ 4 && front.all (· ≤ 255) && last < Nat.pow 256 (4 - front.length)

/-- Whether a text is one piece of an IPv6 address: one to four hexadecimal digits. -/
def isPiece (text : List Char) : Bool :=
  !text.isEmpty && text.length ≤ 4 && text.all fun digit => (hexDigit? digit).isSome

/-- Whether a text is a decimal byte without leading zeros. -/
def isByte (text : List Char) : Bool :=
  match text with
  | [] => false
  | [digit] => digit.isDigit
  | '0' :: _ => false
  | digits => digits.length ≤ 3 && ((number? 10 digits).any (· ≤ 255))

/-- Whether a text is the last two pieces of an IPv6 address, written as four bytes. -/
def isQuad (text : List Char) : Bool :=
  let bytes := Text.splitAt '.' text
  bytes.length = 4 && bytes.all isByte

/-- The number of pieces in a part of an IPv6 address, if they are pieces; only the end of the
whole address may be written as four bytes. -/
def pieceCount? (atEnd : Bool) (part : List Char) : Option Nat :=
  if part.isEmpty then some 0
  else
    let pieces := Text.splitAt ':' part
    match pieces.reverse with
    | [] => none
    | last :: front =>
      if !front.all isPiece then none
      else if isPiece last then some pieces.length
      else if atEnd && isQuad last then some (pieces.length + 1)
      else none

/-- Whether a text is an IPv6 address. -/
def isIpv6 (text : List Char) : Bool :=
  match Text.cutFirst? [':', ':'] text with
  | none => pieceCount? true text = some 8
  | some (front, back) =>
    match pieceCount? false front, pieceCount? true back with
    | some before, some after => before + after ≤ 7
    | _, _ => false

end FleetPlan.Url.Address
