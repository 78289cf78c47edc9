import FleetPlan.Document.Json.Number
import FleetPlan.Text.CodePoints

/-!
# Tokens of JSON

The lexer of JSON reads one character after the other and keeps what it has begun:
a text with its escapes, a number or a word. Every text that writes half a
surrogate pair is a token, though no text can be read from it.
-/

namespace FleetPlan.Json

/-- A token of JSON. -/
inductive Token where
  | openArray
  | closeArray
  | openTable
  | closeTable
  | comma
  | colon
  /-- A text; `none` if half of a surrogate pair is missing in it. -/
  | text (text : Option String)
  /-- A number, a truth value or nothing. -/
  | scalar (value : Value)

/-- Where the lexer stands in an escape. -/
inductive Escape where
  | none
  /-- After the backslash. -/
  | start
  /-- After some hexadecimal digits of a code unit. -/
  | unit (digits number : Nat)

/-- A text that is being read. -/
structure TextReading where
  /-- The characters so far, last one first. -/
  characters : List Char
  /-- Whether every surrogate so far has its other half. -/
  whole : Bool
  /-- A high surrogate whose other half has to follow at once. -/
  high : Option Nat
  escape : Escape

/-- The text before its first character. -/
def TextReading.start : TextReading := ⟨[], true, none, .none⟩

/-- Add a character; a high surrogate before it stays without its other half. -/
def TextReading.push (reading : TextReading) (character : Char) : TextReading :=
  { reading with
    characters := character :: reading.characters
    whole := reading.whole && reading.high.isNone
    high := none
    escape := .none }

/-- Add an escaped code unit. -/
def TextReading.pushUnit (reading : TextReading) (unit : Nat) : TextReading :=
  let isHigh := 0xd800 ≤ unit && unit < 0xdc00
  let isLow := 0xdc00 ≤ unit && unit < 0xe000
  match reading.high with
  | some high =>
    if isLow then
      { reading with
        characters := Char.ofNat (0x10000 + (high - 0xd800) * 0x400 + (unit - 0xdc00)) ::
          reading.characters
        high := none
        escape := .none }
    else { reading with whole := false, high := none, escape := .none }
  | none =>
    if isHigh then { reading with high := some unit, escape := .none }
    else if isLow then { reading with whole := false, escape := .none }
    else reading.push (Char.ofNat unit)

/-- The token of a text that is closed. -/
def TextReading.token (reading : TextReading) : Token :=
  if reading.whole && reading.high.isNone then
    .text (some (String.ofList reading.characters.reverse))
  else .text none

/-- What an escaped letter stands for. -/
def escaped? : Char → Option Char
  | '"' => some '"'
  | '\\' => some '\\'
  | '/' => some '/'
  | 'b' => some '\x08'
  | 'f' => some '\x0c'
  | 'n' => some '\n'
  | 'r' => some '\r'
  | 't' => some '\t'
  | _ => none

/-- What the lexer has begun. -/
inductive Lexing where
  | nothing
  | text (reading : TextReading)
  /-- A number, last character first. -/
  | number (characters : List Char)
  /-- A word, last character first. -/
  | word (characters : List Char)

/-- The tokens so far, last one first, and what has been begun. -/
structure Lexer where
  tokens : List Token
  lexing : Lexing

/-- The value that a word stands for. -/
def word? (word : List Char) : Option Value :=
  if word = "null".toList then some .null
  else if word = "true".toList then some (.bool true)
  else if word = "false".toList then some (.bool false)
  else none

/-- Whether a character may stand in a number. -/
def isNumberChar (character : Char) : Bool :=
  character.isDigit || ['+', '-', '.', 'e', 'E'].contains character

/-- Start a token where nothing has been begun. -/
def Lexer.begin (tokens : List Token) (character : Char) : Option Lexer :=
  match character with
  | ' ' | '\n' | '\r' | '\t' => some ⟨tokens, .nothing⟩
  | '[' => some ⟨.openArray :: tokens, .nothing⟩
  | ']' => some ⟨.closeArray :: tokens, .nothing⟩
  | '\x7b' => some ⟨.openTable :: tokens, .nothing⟩
  | '\x7d' => some ⟨.closeTable :: tokens, .nothing⟩
  | ',' => some ⟨.comma :: tokens, .nothing⟩
  | ':' => some ⟨.colon :: tokens, .nothing⟩
  | '"' => some ⟨tokens, .text .start⟩
  | _ =>
    if character.isDigit || character = '-' then some ⟨tokens, .number [character]⟩
    else if character.isAlpha then some ⟨tokens, .word [character]⟩
    else none

/-- Finish a number or a word. -/
def Lexer.finish (lexer : Lexer) : Option (List Token) :=
  match lexer.lexing with
  | .nothing => some lexer.tokens
  | .text _ => none
  | .number characters =>
    (number? characters.reverse).map fun value => .scalar value :: lexer.tokens
  | .word characters =>
    (word? characters.reverse).map fun value => .scalar value :: lexer.tokens

/-- Read one character of a text. -/
def TextReading.read (tokens : List Token) (reading : TextReading) (character : Char) :
    Option Lexer :=
  match reading.escape with
  | .unit digits number =>
    (Text.hexDigit? character).map fun digit =>
      let number := 16 * number + digit
      if digits = 3 then ⟨tokens, .text (reading.pushUnit number)⟩
      else ⟨tokens, .text { reading with escape := .unit (digits + 1) number }⟩
  | .start =>
    if character = 'u' then some ⟨tokens, .text { reading with escape := .unit 0 0 }⟩
    else (escaped? character).map fun meant => ⟨tokens, .text (reading.push meant)⟩
  | .none =>
    if character = '"' then some ⟨reading.token :: tokens, .nothing⟩
    else if character = '\\' then some ⟨tokens, .text { reading with escape := .start }⟩
    else if character.toNat < 0x20 then none
    else some ⟨tokens, .text (reading.push character)⟩

/-- Read one character. -/
def Lexer.read (lexer : Lexer) (character : Char) : Option Lexer :=
  match lexer.lexing with
  | .nothing => Lexer.begin lexer.tokens character
  | .text reading => reading.read lexer.tokens character
  | .number characters =>
    if isNumberChar character then some { lexer with lexing := .number (character :: characters) }
    else lexer.finish.bind fun tokens => Lexer.begin tokens character
  | .word characters =>
    if character.isAlpha then some { lexer with lexing := .word (character :: characters) }
    else lexer.finish.bind fun tokens => Lexer.begin tokens character

/-- The tokens of a text, if it consists of tokens. -/
def tokens? (text : List Char) : Option (List Token) := do
  let lexer ← text.foldlM Lexer.read ⟨[], .nothing⟩
  let tokens ← lexer.finish
  return tokens.reverse

end FleetPlan.Json
