import FleetPlan.Document.Json.Token

/-!
# Reading JSON

The reader takes one token after the other and keeps the arrays and tables that
are open, innermost first. A value is complete when none is open any more, and
then no token may follow. Depth is not limited here. A table with a key that
cannot be read cannot be read as a whole.
-/

namespace FleetPlan.Json

/-- An array or a table that is open; what it has is listed last one first. -/
inductive Frame where
  | array (items : List Value)
  /-- A table with the key that waits for its value, and whether all keys could be read. -/
  | table (entries : List (String × Value)) (key : Option String) (whole : Bool)

/-- What may come next. -/
inductive Expected where
  | value
  /-- A value, or the end of the array that was just opened. -/
  | valueOrEnd
  | key
  /-- A key, or the end of the table that was just opened. -/
  | keyOrEnd
  | colon
  /-- A comma, or the end of what is open. -/
  | separator
  /-- Nothing: the value is complete. -/
  | nothing (value : Value)

/-- The open arrays and tables, and what may come next. -/
structure Reader where
  frames : List Frame
  expected : Expected

/-- Put a complete value where it belongs. -/
def Reader.deliver (frames : List Frame) (value : Value) : Reader :=
  match frames with
  | [] => ⟨[], .nothing value⟩
  | .array items :: frames => ⟨.array (value :: items) :: frames, .separator⟩
  | .table entries (some key) whole :: frames =>
    ⟨.table ((key, value) :: entries) none whole :: frames, .separator⟩
  | .table entries none _ :: frames => ⟨.table entries none false :: frames, .separator⟩

/-- Close the innermost array. -/
def Reader.closeArray (frames : List Frame) : Option Reader :=
  match frames with
  | .array items :: frames => some (.deliver frames (.array items.reverse))
  | _ => none

/-- Close the innermost table. -/
def Reader.closeTable (frames : List Frame) : Option Reader :=
  match frames with
  | .table entries _ whole :: frames =>
    some (.deliver frames (if whole then .table entries.reverse else .unreadable))
  | _ => none

/-- Read a token where a value starts. -/
def Reader.readValue (frames : List Frame) (token : Token) : Option Reader :=
  match token with
  | .openArray => some ⟨.array [] :: frames, .valueOrEnd⟩
  | .openTable => some ⟨.table [] none true :: frames, .keyOrEnd⟩
  | .scalar value => some (.deliver frames value)
  | .text (some text) => some (.deliver frames (.text text))
  | .text none => some (.deliver frames .unreadable)
  | _ => none

/-- Read a token where a key stands. -/
def Reader.readKey (frames : List Frame) (token : Token) : Option Reader :=
  match token, frames with
  | .text key, .table entries _ whole :: frames => some ⟨.table entries key whole :: frames, .colon⟩
  | _, _ => none

/-- Read one token. -/
def Reader.read (reader : Reader) (token : Token) : Option Reader :=
  match reader.expected, token with
  | .value, token => Reader.readValue reader.frames token
  | .valueOrEnd, .closeArray => Reader.closeArray reader.frames
  | .valueOrEnd, token => Reader.readValue reader.frames token
  | .key, token => Reader.readKey reader.frames token
  | .keyOrEnd, .closeTable => Reader.closeTable reader.frames
  | .keyOrEnd, token => Reader.readKey reader.frames token
  | .colon, .colon => some ⟨reader.frames, .value⟩
  | .separator, .closeArray => Reader.closeArray reader.frames
  | .separator, .closeTable => Reader.closeTable reader.frames
  | .separator, .comma =>
    match reader.frames with
    | .array _ :: _ => some ⟨reader.frames, .value⟩
    | .table .. :: _ => some ⟨reader.frames, .key⟩
    | [] => none
  | _, _ => none

/-- The value that a text writes. -/
def parse? (text : String) : Option Value := do
  let tokens ← tokens? text.toList
  let reader ← tokens.foldlM Reader.read ⟨[], .value⟩
  match reader.expected with
  | .nothing value => some value
  | _ => none

end FleetPlan.Json
