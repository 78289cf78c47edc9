import FleetPlan.Document.Value

/-!
# Writing JSON

Values are written on one line without blanks, or with every item and entry on a
line of its own. Texts escape the quote, the backslash and the controls only.
-/

namespace FleetPlan.Json

/-- The four hexadecimal digits of a code unit. -/
def unitDigits (unit : Nat) : List Char :=
  [Nat.digitChar (unit / 4096 % 16), Nat.digitChar (unit / 256 % 16),
    Nat.digitChar (unit / 16 % 16), Nat.digitChar (unit % 16)]

/-- One character of a written text. -/
def escapedChar (character : Char) : List Char :=
  match character with
  | '"' => ['\\', '"']
  | '\\' => ['\\', '\\']
  | '\n' => ['\\', 'n']
  | '\r' => ['\\', 'r']
  | '\t' => ['\\', 't']
  | '\x08' => ['\\', 'b']
  | '\x0c' => ['\\', 'f']
  | _ => if character.toNat < 0x20 then '\\' :: 'u' :: unitDigits character.toNat else [character]

/-- A text between double quotes. -/
def writeText (text : String) : String :=
  String.ofList ('"' :: text.toList.flatMap escapedChar ++ ['"'])

/-- A value without parts. -/
def writeScalar : Value → String
  | .bool true => "true"
  | .bool false => "false"
  | .integer value => toString value
  | .float written => if written = "-0" then "-0.0" else written
  | .text text => writeText text
  | _ => "null"

/-- The opening mark of a table. -/
def openMark : String := "\x7b"
/-- The closing mark of a table. -/
def closeMark : String := "\x7d"

mutual

/-- A value on one line without blanks. -/
def write : Value → String
  | .array items => "[" ++ ",".intercalate (writeItems items) ++ "]"
  | .table entries => openMark ++ ",".intercalate (writeEntries entries) ++ closeMark
  | value => writeScalar value

/-- The items of an array, each on one line. -/
def writeItems : List Value → List String
  | [] => []
  | item :: items => write item :: writeItems items

/-- The entries of a table, each on one line. -/
def writeEntries : List (String × Value) → List String
  | [] => []
  | entry :: entries => (writeText entry.1 ++ ":" ++ write entry.2) :: writeEntries entries

end

/-- The blanks before a line inside `depth` arrays and tables. -/
def indent (depth : Nat) : String := "".pushn ' ' (2 * depth)

/-- Written parts between marks, each part on a line of its own. -/
def writeBlock (opening closing : String) (depth : Nat) (parts : List String) : String :=
  if parts.isEmpty then opening ++ closing
  else
    opening ++ "\n" ++ ",\n".intercalate (parts.map (indent (depth + 1) ++ ·)) ++ "\n" ++
      indent depth ++ closing

mutual

/-- A value with every part on a line of its own, inside `depth` others. -/
def writeLines (depth : Nat) : Value → String
  | .array items => writeBlock "[" "]" depth (writeItemLines (depth + 1) items)
  | .table entries => writeBlock openMark closeMark depth (writeEntryLines (depth + 1) entries)
  | value => writeScalar value

/-- The items of an array with every part on a line of its own. -/
def writeItemLines (depth : Nat) : List Value → List String
  | [] => []
  | item :: items => writeLines depth item :: writeItemLines depth items

/-- The entries of a table with every part on a line of its own. -/
def writeEntryLines (depth : Nat) : List (String × Value) → List String
  | [] => []
  | entry :: entries =>
    (writeText entry.1 ++ ": " ++ writeLines depth entry.2) :: writeEntryLines depth entries

end

end FleetPlan.Json
