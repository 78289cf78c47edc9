import FleetPlan.Text.Invisible

/-!
# Quoted texts in messages

Messages show a text between double quotes so that every character of it can be
told apart: the quote and the backslash are escaped, the common controls have
letters, and characters without a visible form are written by number. A list of
texts stands between brackets.
-/

namespace FleetPlan.Text

/-- The digits of a number in lower-case hexadecimal. -/
def hexDigits (number : Nat) : List Char :=
  Nat.toDigits 16 number

/-- One character as it stands between the quotes. -/
def quotedChar (character : Char) : List Char :=
  if character = '"' then ['\\', '"']
  else if character = '\\' then ['\\', '\\']
  else if character = '\n' then ['\\', 'n']
  else if character = '\r' then ['\\', 'r']
  else if character = '\t' then ['\\', 't']
  else if character = '\x00' then ['\\', '0']
  else if isInvisible character then
    '\\' :: 'u' :: '\x7b' :: hexDigits character.toNat ++ ['\x7d']
  else [character]

/-- A text between double quotes. -/
def quoted (text : String) : String :=
  String.ofList ('"' :: text.toList.flatMap quotedChar ++ ['"'])

/-- Texts between brackets, each of them quoted. -/
def quotedList (texts : List String) : String :=
  "[" ++ ", ".intercalate (texts.map quoted) ++ "]"

end FleetPlan.Text
