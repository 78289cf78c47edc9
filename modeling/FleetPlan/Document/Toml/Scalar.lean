import FleetPlan.Document.Decimal
import FleetPlan.Document.Value
import FleetPlan.Text.CodePoints
import FleetPlan.Text.Search

/-!
# Scalars in TOML

Truth values, integers of four bases, floats, dates and times. Underscores may
stand between digits. An integer has at most 128 bits, and a float that is not
written as infinite has to be finite. A date or a time is a table of one entry,
whose text is written with `T`, without needless zeros and with its offset.
-/

namespace FleetPlan.Toml

open FleetPlan.Decimal

/-- The digits of a text that may have single underscores between digits. -/
def plainDigits? (isDigit : Char → Bool) (text : List Char) : Option (List Char) :=
  let groups := Text.splitAt '_' text
  if groups.all fun group => !group.isEmpty && group.all isDigit then some groups.flatten else none

/-- The number with the given digits of a base. -/
def ofBase (base : Nat) (digits : List Char) : Nat :=
  digits.foldl (fun number digit => base * number + (Text.hexDigit? digit).getD 0) 0

/-- Take a sign off a number; whether it is negative, and the rest. -/
def cutSign : List Char → Bool × List Char
  | '-' :: rest => (true, rest)
  | '+' :: rest => (false, rest)
  | text => (false, text)

/-- The digits of the whole part of a decimal, which has no needless zero in front. -/
def wholeDigits? (text : List Char) : Option (List Char) := do
  let digits ← plainDigits? Char.isDigit text
  if digits.length = 1 || digits.head? != some '0' then some digits else none

/-- Whether a character is a digit of a base up to sixteen. -/
def isDigitOf (base : Nat) (character : Char) : Bool :=
  (Text.hexDigit? character).any (· < base)

/-- The integer that a text writes. -/
def integer? (text : List Char) : Option Int :=
  let based := fun (base : Nat) (digits : List Char) =>
    (plainDigits? (isDigitOf base) digits).map fun digits => (ofBase base digits : Int)
  let written :=
    match text with
    | '0' :: 'x' :: digits => based 16 digits
    | '0' :: 'o' :: digits => based 8 digits
    | '0' :: 'b' :: digits => based 2 digits
    | _ =>
      let (negative, unsigned) := cutSign text
      (wholeDigits? unsigned).map fun digits =>
        if negative then -(ofDigits digits : Int) else (ofDigits digits : Int)
  written.filter fun value => -(Nat.pow 2 127 : Int) ≤ value && value < (Nat.pow 2 128 : Int)

/-- Whether a text writes a float. -/
def isFloat (text : List Char) : Bool :=
  let (_, unsigned) := cutSign text
  if unsigned = "inf".toList || unsigned = "nan".toList then true
  else
    let isMark := fun character => character = 'e' || character = 'E'
    let front := unsigned.takeWhile fun character => !isMark character
    let exponent :=
      match unsigned.dropWhile fun character => !isMark character with
      | [] => some (false, [])
      | _ :: exponent =>
        let (negative, digits) := cutSign exponent
        (plainDigits? Char.isDigit digits).map fun digits => (negative, digits)
    let parts :=
      match Text.cutFirst? ['.'] front with
      | some (whole, fraction) => do
        let whole ← wholeDigits? whole
        let fraction ← plainDigits? Char.isDigit fraction
        return (whole, fraction)
      | none => (wholeDigits? front).map fun whole => (whole, [])
    match parts, exponent with
    | some (whole, fraction), some (negative, digits) =>
      let size := ofDigits digits
      let (up, down) := if negative then (0, size) else (size, 0)
      let isMarked := unsigned != front || !fraction.isEmpty
      isMarked && isFinite (ofDigits (whole ++ fraction)) up (down + fraction.length)
    | _, _ => false

/-- The number of two digits at the start of a text, and what follows. -/
def twoDigits? : List Char → Option (Nat × List Char)
  | high :: low :: rest =>
    if high.isDigit && low.isDigit then some (ofDigits [high, low], rest) else none
  | _ => none

/-- The days of a month. -/
def daysIn (year month : Nat) : Nat :=
  if month = 2 then
    if year % 4 = 0 && (year % 100 != 0 || year % 400 = 0) then 29 else 28
  else if [4, 6, 9, 11].contains month then 30
  else 31

/-- A date at the start of a text as it is written, and what follows. -/
def date? (text : List Char) : Option (List Char × List Char) :=
  match text with
  | a :: b :: c :: d :: '-' :: rest => do
    if [a, b, c, d].any fun character => !character.isDigit then none
    else
      let (month, rest) ← twoDigits? rest
      let rest ← Text.dropStart? ['-'] rest
      let (day, rest) ← twoDigits? rest
      if 1 ≤ month && month ≤ 12 && 1 ≤ day && day ≤ daysIn (ofDigits [a, b, c, d]) month then
        some (text.take 10, rest)
      else none
  | _ => none

/-- The fraction of a second at the start of a text, kept to nine digits and without needless zeros
at its end, and what follows. -/
def fraction? (text : List Char) : Option (List Char × List Char) :=
  match text with
  | '.' :: rest =>
    let digits := rest.takeWhile Char.isDigit
    if digits.isEmpty then none
    else
      let kept := Text.trimEnd '0' (digits.take 9)
      some ('.' :: (if kept.isEmpty then ['0'] else kept), rest.dropWhile Char.isDigit)
  | _ => some ([], text)

/-- A time at the start of a text, and what follows. The seconds may be left out. -/
def time? (text : List Char) : Option (List Char × List Char) := do
  let (hour, afterHour) ← twoDigits? text
  let afterColon ← Text.dropStart? [':'] afterHour
  let (minute, afterMinute) ← twoDigits? afterColon
  if 23 < hour || 59 < minute then none
  else
    match afterMinute with
    | ':' :: seconds => do
      let (second, rest) ← twoDigits? seconds
      if 60 < second then none
      else
        let (fraction, rest) ← fraction? rest
        return (text.take 8 ++ fraction, rest)
    | _ => return (text.take 5, afterMinute)

/-- The offset that a text writes. -/
def offset? (text : List Char) : Option (List Char) :=
  match text with
  | [] => some []
  | ['Z'] => some ['Z']
  | ['z'] => some ['Z']
  | sign :: rest =>
    if sign = '+' || sign = '-' then do
      let (hours, afterHours) ← twoDigits? rest
      let minutes ← Text.dropStart? [':'] afterHours
      let (minute, ending) ← twoDigits? minutes
      if !ending.isEmpty || 23 < hours || 59 < minute then none
      else if hours = 0 && minute = 0 then some ('+' :: rest)
      else some text
    else none

/-- The date or time that a text writes. -/
def moment? (text : List Char) : Option String :=
  match date? text with
  | some (date, []) => some (String.ofList date)
  | some (date, separator :: rest) =>
    if separator = 'T' || separator = 't' || separator = ' ' then do
      let (time, ending) ← time? rest
      let offset ← offset? ending
      return String.ofList (date ++ 'T' :: time ++ offset)
    else none
  | none =>
    match time? text with
    | some (time, []) => some (String.ofList time)
    | _ => none

/-- The key of the one entry of a date or time. -/
def momentKey : String := "$__toml_private_datetime"

/-- The value of a text that writes a scalar other than a text. -/
def scalar? (text : List Char) : Option Value :=
  if text = "true".toList then some (.bool true)
  else if text = "false".toList then some (.bool false)
  else
    match integer? text with
    | some value => some (.integer value)
    | none =>
      if isFloat text then some (.float (String.ofList text))
      else (moment? text).map fun moment => .table [(momentKey, .text moment)]

end FleetPlan.Toml
