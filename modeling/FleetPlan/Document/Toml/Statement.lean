import FleetPlan.Document.Toml.Scalar
import FleetPlan.Document.Toml.Token

/-!
# Statements of TOML

A document is a list of statements: headers, which say what table follows, and
assignments of values to keys. Like the reader of JSON, this reader takes one
token after the other and keeps the arrays and inline tables that are open. Each
inline table is an assignment list of its own and is put together when it closes.
-/

namespace FleetPlan.Toml

/-- The parts of a dotted key. -/
abbrev Path := List String

/-- A tree of assignments before it is checked that no key is defined twice. -/
inductive Tree where
  | leaf (value : Value)
  | array (items : List Tree)
  | inline (assignments : List (Path × Tree))
  deriving Inhabited

/-- A statement of a document. -/
inductive Statement where
  /-- The table with a path follows. -/
  | table (path : Path)
  /-- A new table at the end of the array with a path follows. -/
  | element (path : Path)
  | assign (path : Path) (tree : Tree)

/-- A part of a dotted key as it is written: a name, or a dot. -/
inductive KeyPiece where
  | name (name : String)
  | dot
  deriving DecidableEq

/-- Whether a character may stand in a name that is not quoted. -/
def isBareChar (character : Char) : Bool :=
  character.isAlphanum || character = '-' || character = '_'

/-- The names and dots of a run, given what the name that is being read has so far. -/
def runPieces? : (name : List Char) → List Char → Option (List KeyPiece)
  | name, [] => some (if name.isEmpty then [] else [.name (String.ofList name.reverse)])
  | name, character :: rest =>
    let before := if name.isEmpty then [] else [KeyPiece.name (String.ofList name.reverse)]
    if character = '.' then (runPieces? [] rest).map fun pieces => before ++ .dot :: pieces
    else if isBareChar character then runPieces? (character :: name) rest
    else none

/-- The path that pieces write: names with dots between them. -/
def path? : List KeyPiece → Option Path
  | [.name name] => some [name]
  | .name name :: .dot :: pieces => (path? pieces).map (name :: ·)
  | _ => none

/-- The pieces that a token adds to a key. -/
def keyPieces? : Token → Option (List KeyPiece)
  | .run characters => runPieces? [] characters
  | .quoted text true => some [.name (String.ofList text)]
  | .blank _ => some []
  | _ => none

/-- An array or an inline table that is open; what it has is listed last one first. -/
inductive Frame where
  | array (items : List Tree)
  /-- An inline table with the key that waits for its value. -/
  | inline (assignments : List (Path × Tree)) (key : Path)

/-- What may come next. -/
inductive Expected where
  /-- A statement, at the start of a line. -/
  | statement
  /-- A bracket or a key, right after the bracket that starts a header. -/
  | header
  /-- A key in a header. -/
  | headerKey (element : Bool) (pieces : List KeyPiece)
  /-- The second bracket that ends a header. -/
  | headerEnd (path : Path)
  /-- A key and an equals sign. -/
  | key (pieces : List KeyPiece)
  /-- The equals sign after a key whose line has ended, in an inline table. -/
  | equals (path : Path)
  | value
  /-- A value or the end of an array. -/
  | item
  /-- A key or the end of an inline table. -/
  | entry
  /-- A time after a date and, if it was there, a single space. -/
  | time (date : List Char) (spaced : Bool)
  /-- A comma or the end of what is open, or the end of the line. -/
  | separator

/-- The statements so far, last one first, what is open, the key of the statement that is being
read, and what may come next. -/
structure Reader where
  statements : List Statement
  frames : List Frame
  key : Path
  expected : Expected

/-- The most arrays and inline tables that may be open inside each other, and the most parts of a
key. -/
def deepest : Nat := 80

/-- The path of a key that is not too long. -/
def key? (pieces : List KeyPiece) : Option Path :=
  (path? pieces).filter (·.length ≤ deepest)

namespace Reader

/-- Open an array or an inline table. -/
def push (reader : Reader) (frame : Frame) (expected : Expected) : Option Reader :=
  if reader.frames.length < deepest then
    some { reader with frames := frame :: reader.frames, expected }
  else none

/-- Put a complete value where it belongs. -/
def deliver (reader : Reader) (tree : Tree) : Reader :=
  match reader.frames with
  | [] =>
    { reader with statements := .assign reader.key tree :: reader.statements, expected := .separator }
  | .array items :: frames =>
    { reader with frames := .array (tree :: items) :: frames, expected := .separator }
  | .inline assignments key :: frames =>
    { reader with frames := .inline ((key, tree) :: assignments) [] :: frames, expected := .separator }

/-- Close the innermost array or inline table. -/
def close (reader : Reader) (token : Token) : Option Reader :=
  match reader.frames, token with
  | .array items :: frames, .closeBracket =>
    some ({ reader with frames }.deliver (.array items.reverse))
  | .inline assignments _ :: frames, .closeBrace =>
    some ({ reader with frames }.deliver (.inline assignments.reverse))
  | _, _ => none

/-- Read a token where a value starts. -/
def readValue (reader : Reader) (token : Token) : Option Reader :=
  match token with
  | .openBracket => reader.push (.array []) .item
  | .openBrace => reader.push (.inline [] []) .entry
  | .quoted text _ => some (reader.deliver (.leaf (.text (String.ofList text))))
  | .run characters =>
    match date? characters with
    | some (_, []) => some { reader with expected := .time characters false }
    | _ => (scalar? characters).map fun value => reader.deliver (.leaf value)
  | .blank _ => some reader
  | .newline =>
    match reader.frames with
    | .inline .. :: _ => some reader
    | _ => none
  | _ => none

/-- Read a token after a value. -/
def readSeparator (reader : Reader) (token : Token) : Option Reader :=
  match token, reader.frames with
  | .blank _, _ => some reader
  | .newline, [] => some { reader with expected := .statement }
  | .newline, _ => some reader
  | .comma, .array _ :: _ => some { reader with expected := .item }
  | .comma, .inline .. :: _ => some { reader with expected := .entry }
  | token, _ => reader.close token

/-- Expect the value of a key, after its equals sign. -/
def awaitValue (reader : Reader) (path : Path) : Reader :=
  match reader.frames with
  | .inline assignments _ :: frames =>
    { reader with frames := .inline assignments path :: frames, expected := .value }
  | _ => { reader with key := path, expected := .value }

/-- Read a token of a key that belongs to a statement or an inline table. -/
def readKey (reader : Reader) (pieces : List KeyPiece) (token : Token) : Option Reader :=
  match token, reader.frames with
  | .equals, _ => (key? pieces).map reader.awaitValue
  | .newline, .inline .. :: _ =>
    (key? pieces).map fun path => { reader with expected := .equals path }
  | token, _ =>
    (keyPieces? token).map fun more => { reader with expected := .key (pieces ++ more) }

/-- Read a token between a key and its equals sign, on a line after that of the key. -/
def readEquals (reader : Reader) (path : Path) (token : Token) : Option Reader :=
  match token with
  | .newline | .blank _ => some reader
  | .equals => some (reader.awaitValue path)
  | _ => none

/-- Read a token of the key in a header. -/
def readHeaderKey (reader : Reader) (element : Bool) (pieces : List KeyPiece) (token : Token) :
    Option Reader :=
  match token with
  | .closeBracket => do
    let path ← key? pieces
    if element then return { reader with expected := .headerEnd path }
    else
      return { reader with
        statements := .table path :: reader.statements, expected := .separator }
  | token =>
    (keyPieces? token).map fun more =>
      { reader with expected := .headerKey element (pieces ++ more) }

/-- Read the token after a date: the time that belongs to it, or what follows the value. -/
def readTime (reader : Reader) (date : List Char) (spaced : Bool) (token : Token) :
    Option Reader :=
  match spaced, token with
  | false, .blank true => some { reader with expected := .time date true }
  | true, .run time =>
    (scalar? (date ++ ' ' :: time)).map fun value => reader.deliver (.leaf value)
  | _, token => do
    let value ← scalar? date
    readSeparator (reader.deliver (.leaf value)) token

/-- Read one token. -/
def read (reader : Reader) (token : Token) : Option Reader :=
  match reader.expected with
  | .statement =>
    match token with
    | .newline | .blank _ => some reader
    | .openBracket => some { reader with expected := .header }
    | token => reader.readKey [] token
  | .header =>
    match token with
    | .openBracket => some { reader with expected := .headerKey true [] }
    | token => reader.readHeaderKey false [] token
  | .headerKey element pieces => reader.readHeaderKey element pieces token
  | .headerEnd path =>
    match token with
    | .closeBracket =>
      some { reader with statements := .element path :: reader.statements, expected := .separator }
    | _ => none
  | .key pieces => reader.readKey pieces token
  | .equals path => reader.readEquals path token
  | .value => reader.readValue token
  | .item =>
    match token with
    | .newline => some reader
    | .closeBracket => reader.close token
    | token => reader.readValue token
  | .entry =>
    match token with
    | .newline | .blank _ => some reader
    | .closeBrace => reader.close token
    | token => reader.readKey [] token
  | .time date spaced => reader.readTime date spaced token
  | .separator => reader.readSeparator token

end Reader

/-- The statements of a document. -/
def statements? (document : String) : Option (List Statement) := do
  let tokens ← tokens? document.toList
  let reader ← (tokens ++ [Token.newline]).foldlM Reader.read ⟨[], [], [], .statement⟩
  match reader.expected, reader.frames with
  | .statement, [] => some reader.statements.reverse
  | _, _ => none

end FleetPlan.Toml
