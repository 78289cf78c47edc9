/-!
# Control characters of terminals

A text that is not shown on a terminal is written without the characters that
would control one: single controls other than blanks and line ends, and the
sequences that an escape character starts. Most sequences end at their first
letter; strings, which terminals read as messages of their own, end at the next
escape character. A blank control or a line end breaks off a short sequence and
is kept.
-/

namespace FleetPlan.Text

/-- What the characters before a place in a text have begun. -/
inductive ControlState where
  /-- Nothing: what follows is text. -/
  | text
  /-- An escape character was read. -/
  | escape
  /-- An escape character with marks after it, which a letter will end. -/
  | escapeMarks
  /-- A sequence of numbers and marks, which a letter will end. -/
  | sequence
  /-- The head of a string for the device, of which nothing, numbers or marks were read. -/
  | deviceHead
  | deviceNumbers
  | deviceMarks
  /-- A string that an escape character ends. -/
  | string
  /-- A string for the system, which a bell ends too. -/
  | systemString
  deriving DecidableEq

namespace ControlState

/-- The escape character. -/
def escapeChar : Char := '\x1b'

/-- Whether a control cancels whatever was begun. -/
def isCancel (character : Char) : Bool := character = '\x18' || character = '\x1a'

/-- Whether a control is a blank or ends a line or page, and so belongs to the text. -/
def isBlankControl (character : Char) : Bool :=
  ['\t', '\n', '\x0c', '\r'].contains character

/-- Whether the code of a character lies in a range. -/
def isWithin (low high : Nat) (character : Char) : Bool :=
  low ≤ character.toNat && character.toNat ≤ high

/-- Whether a character is a mark, which stands between the start and the end of a sequence. -/
def isMark (character : Char) : Bool := isWithin 0x20 0x2f character

/-- Whether a character can end a sequence. -/
def isFinal (character : Char) : Bool := isWithin 0x40 0x7e character

/-- Whether the bytes of a character contain the one that ends strings. -/
def hasStringEnd (character : Char) : Bool :=
  (String.singleton character).toUTF8.toList.contains 0x9c

/-- Whether a character that stands in text is kept. -/
def isKept (character : Char) : Bool :=
  isBlankControl character || (0x20 ≤ character.toNat && character.toNat != 0x7f)

/-- Whether a blank control breaks off what was begun and is kept. -/
def yieldsToBlanks : ControlState → Bool
  | .escape | .escapeMarks | .sequence => true
  | _ => false

/-- What the character after an escape character begins. -/
def afterEscape (character : Char) : ControlState :=
  match character with
  | '[' => .sequence
  | ']' => .systemString
  | 'P' => .deviceHead
  | 'X' | '^' | '_' => .string
  | _ =>
    if isMark character then .escapeMarks
    else if isWithin 0x30 0x7e character then .text
    else .escape

/-- What is begun after one more character, which neither cancels nor escapes. -/
def next (state : ControlState) (character : Char) : ControlState :=
  match state with
  | .text => .text
  | .escape => afterEscape character
  | .escapeMarks => if isWithin 0x30 0x7e character then .text else .escapeMarks
  | .sequence => if isFinal character then .text else .sequence
  | .deviceHead =>
    if isFinal character || character = ':' then .string
    else if isMark character then .deviceMarks
    else if isWithin 0x30 0x3f character then .deviceNumbers
    else .deviceHead
  | .deviceNumbers =>
    if isFinal character || character = ':' || isWithin 0x3c 0x3f character then .string
    else if isMark character then .deviceMarks
    else .deviceNumbers
  | .deviceMarks =>
    if isFinal character || isWithin 0x30 0x3f character then .string else .deviceMarks
  | .string => if hasStringEnd character then .text else .string
  | .systemString => if character = '\x07' then .text else .systemString

end ControlState

open ControlState in
/-- The characters of a text that are kept, given what the characters before them have begun. -/
def keptFrom : ControlState → List Char → List Char
  | _, [] => []
  | state, character :: rest =>
    if character = escapeChar then keptFrom .escape rest
    else if isCancel character then keptFrom .text rest
    else if state = .text then
      if isKept character then character :: keptFrom .text rest else keptFrom .text rest
    else if state.yieldsToBlanks && isBlankControl character then
      character :: keptFrom .text rest
    else keptFrom (state.next character) rest

/-- A text without control characters and the sequences that they start. -/
def withoutControls (text : String) : String :=
  String.ofList (keptFrom .text text.toList)

/-- Whatever was begun, no character is left that would control a terminal. -/
theorem isKept_of_mem_keptFrom (state : ControlState) (text : List Char) :
    ∀ character ∈ keptFrom state text, ControlState.isKept character = true := by
  fun_induction keptFrom state text
  case case1 => exact fun _ member => nomatch member
  case case2 hypothesis | case3 hypothesis | case5 hypothesis | case7 hypothesis =>
    exact hypothesis
  case case4 kept hypothesis => exact List.forall_mem_cons.mpr ⟨kept, hypothesis⟩
  case case6 breaks hypothesis =>
    have blank := (Bool.and_eq_true_iff.mp breaks).2
    have kept : ControlState.isKept _ = true := Bool.or_eq_true_iff.mpr (.inl blank)
    exact List.forall_mem_cons.mpr ⟨kept, hypothesis⟩

/-- A text in which every character is kept where it stands in text stays as it is. -/
theorem keptFrom_text_eq_self {text : List Char}
    (kept : ∀ character ∈ text, ControlState.isKept character = true) :
    keptFrom .text text = text := by
  induction text with
  | nil => rfl
  | cons character rest hypothesis =>
    have keptHere := kept character (List.mem_cons_self ..)
    have keptRest := hypothesis fun other member => kept other (List.mem_cons_of_mem _ member)
    have notEscape : character ≠ ControlState.escapeChar := by
      rintro rfl
      exact absurd keptHere (by decide)
    have notCancel : ControlState.isCancel character = false := by
      rw [Bool.eq_false_iff]
      intro cancels
      rcases Bool.or_eq_true _ _ ▸ cancels with same | same <;>
        exact absurd keptHere (by rw [of_decide_eq_true same]; decide)
    simp [keptFrom, notEscape, notCancel, keptHere, keptRest]

/-- A text without control characters has none to leave out. -/
theorem withoutControls_withoutControls (text : String) :
    withoutControls (withoutControls text) = withoutControls text := by
  have kept := isKept_of_mem_keptFrom .text text.toList
  rw [withoutControls, withoutControls, String.toList_ofList, keptFrom_text_eq_self kept]

end FleetPlan.Text
