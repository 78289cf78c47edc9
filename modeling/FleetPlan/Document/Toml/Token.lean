import FleetPlan.Text.CodePoints
import FleetPlan.Text.Search

/-!
# Tokens of TOML

Keys and scalars share their characters, so the lexer only divides a document into
runs of such characters, quoted texts, marks, blanks and line ends; comments are
checked and dropped. Texts are quoted in four ways: on one line or on several, and
with escapes or literally. A line ends in a line feed, with or without a carriage
return before it; a text of several lines keeps its line ends as they are written.
-/

namespace FleetPlan.Toml

/-- A token of TOML. -/
inductive Token where
  | newline
  /-- Blanks; a date and its time are divided by a single space. -/
  | blank (single : Bool)
  | openBracket
  | closeBracket
  | openBrace
  | closeBrace
  | comma
  | equals
  /-- Characters of keys and scalars. -/
  | run (characters : List Char)
  /-- A quoted text; keys are quoted on one line. -/
  | quoted (text : List Char) (oneLine : Bool)
  deriving DecidableEq

/-- Whether a character may stand in a comment or, between quotes, in a text on one line. -/
def isPlain (character : Char) : Bool :=
  character = '\t' || (0x20 ≤ character.toNat && character.toNat != 0x7f)

/-- Whether a character is a blank. -/
def isBlank (character : Char) : Bool := character = ' ' || character = '\t'

/-- Whether a character belongs to keys or scalars. -/
def isRunChar (character : Char) : Bool :=
  character.isAlphanum || ['-', '_', '+', '.', ':'].contains character

/-- Whether a character belongs to a line end. -/
def isLineEnd (character : Char) : Bool := character = '\n' || character = '\r'

/-- Whether a line feed follows each carriage return. -/
def endsLines : List Char → Bool
  | [] => true
  | '\r' :: '\n' :: rest => endsLines rest
  | '\r' :: _ => false
  | _ :: rest => endsLines rest

/-- The character with a code point given in hexadecimal. -/
def scalarOfHex? (digits : List Char) : Option Char := do
  let values ← digits.mapM Text.hexDigit?
  let point := values.foldl (fun number value => 16 * number + value) 0
  if valid : point.isValidChar then some (Char.ofNatAux point valid) else none

/-- What a letter after a backslash stands for. -/
def escaped? : Char → Option Char
  | 'b' => some '\x08'
  | 't' => some '\t'
  | 'n' => some '\n'
  | 'f' => some '\x0c'
  | 'r' => some '\r'
  | 'e' => some '\x1b'
  | '"' => some '"'
  | '\\' => some '\\'
  | _ => none

/-- Read the escapes of a text. In a text of several lines a backslash at the end of a line removes
that end and all blanks after it; `trimming` says that such a removal is under way and whether it
has passed its line end. -/
def unescape (severalLines : Bool) (trimming : Option Bool) : List Char → Option (List Char)
  | [] => if trimming = some false then none else some []
  | character :: rest =>
    if trimming.isSome && isBlank character then unescape severalLines trimming rest
    else if trimming.isSome && isLineEnd character then unescape severalLines (some true) rest
    else if trimming = some false then none
    else if character = '\\' then
      match rest with
      | 'x' :: a :: b :: rest => do
        let meant ← scalarOfHex? [a, b]
        return meant :: (← unescape severalLines none rest)
      | 'u' :: a :: b :: c :: d :: rest => do
        let meant ← scalarOfHex? [a, b, c, d]
        return meant :: (← unescape severalLines none rest)
      | 'U' :: a :: b :: c :: d :: e :: f :: g :: h :: rest => do
        let meant ← scalarOfHex? [a, b, c, d, e, f, g, h]
        return meant :: (← unescape severalLines none rest)
      | next :: rest =>
        match escaped? next with
        | some meant => return meant :: (← unescape severalLines none rest)
        | none =>
          if severalLines && (isBlank next || isLineEnd next) then
            unescape severalLines (some (isLineEnd next)) rest
          else none
      | [] => none
    else if isPlain character || (severalLines && isLineEnd character) then do
      return character :: (← unescape severalLines none rest)
    else none

/-- The text up to a closing quote, and what follows the quote. With escapes, a character after a
backslash closes nothing. -/
def cutQuoted (quote : Char) (escapes : Bool) : List Char → Option (List Char × List Char)
  | [] => none
  | character :: rest =>
    if character = quote then some ([], rest)
    else if character = '\n' then none
    else if escapes && character = '\\' then
      match rest with
      | [] => none
      | next :: rest =>
        (cutQuoted quote escapes rest).map fun cut => (character :: next :: cut.1, cut.2)
    else (cutQuoted quote escapes rest).map fun cut => (character :: cut.1, cut.2)

/-- The text up to three closing quotes, and what follows them. One or two more quotes before the
closing ones belong to the text. -/
def cutQuotedLines (quote : Char) (escapes : Bool) : List Char → Option (List Char × List Char)
  | [] => none
  | character :: rest =>
    let quotes := ((character :: rest).takeWhile (· = quote)).length
    if 3 ≤ quotes then
      some (List.replicate (min quotes 5 - 3) quote, (character :: rest).drop (min quotes 5))
    else if escapes && character = '\\' then
      match rest with
      | [] => none
      | next :: rest =>
        (cutQuotedLines quote escapes rest).map fun cut => (character :: next :: cut.1, cut.2)
    else (cutQuotedLines quote escapes rest).map fun cut => (character :: cut.1, cut.2)

/-- What follows a quoted text is shorter than the text with its closing quote. -/
theorem length_of_cutQuoted {quote : Char} {escapes : Bool} {text : List Char}
    {cut : List Char × List Char} (found : cutQuoted quote escapes text = some cut) :
    cut.2.length < text.length := by
  fun_induction cutQuoted quote escapes text generalizing cut with
  | case1 => simp at found
  | case2 => simp_all [← Option.some.inj found]
  | case3 => simp at found
  | case4 => simp at found
  | case5 _ _ _ _ next rest hypothesis =>
    obtain ⟨inner, foundInner, rfl⟩ := Option.map_eq_some_iff.mp found
    have shorter := hypothesis foundInner
    simp only [List.length_cons]
    omega
  | case6 _ rest _ _ _ hypothesis =>
    obtain ⟨inner, foundInner, rfl⟩ := Option.map_eq_some_iff.mp found
    have shorter := hypothesis foundInner
    simp only [List.length_cons]
    omega

/-- What follows a quoted text of several lines is shorter than the text with its closing quotes. -/
theorem length_of_cutQuotedLines {quote : Char} {escapes : Bool} {text : List Char}
    {cut : List Char × List Char} (found : cutQuotedLines quote escapes text = some cut) :
    cut.2.length < text.length := by
  fun_induction cutQuotedLines quote escapes text generalizing cut with
  | case1 => simp at found
  | case2 character rest quotes =>
    rw [← Option.some.inj found]
    simp only [List.length_drop, List.length_cons]
    omega
  | case3 => simp at found
  | case4 =>
    rename_i hypothesis
    obtain ⟨inner, foundInner, rfl⟩ := Option.map_eq_some_iff.mp found
    have shorter := hypothesis foundInner
    simp only [List.length_cons]
    omega
  | case5 =>
    rename_i hypothesis
    obtain ⟨inner, foundInner, rfl⟩ := Option.map_eq_some_iff.mp found
    have shorter := hypothesis foundInner
    simp only [List.length_cons]
    omega

/-- A text of several lines without a line end right at its start. -/
def withoutFirstLineEnd : List Char → List Char
  | '\r' :: '\n' :: rest => rest
  | '\n' :: rest => rest
  | text => text

/-- The quoted text at the start of a document, and what follows it. -/
def quotedToken? (text : List Char) : Option (Token × List Char) :=
  match text with
  | '"' :: '"' :: '"' :: rest => do
    let (raw, rest) ← cutQuotedLines '"' true rest
    let text ← unescape true none (withoutFirstLineEnd raw)
    return (.quoted text false, rest)
  | '"' :: rest => do
    let (raw, rest) ← cutQuoted '"' true rest
    let text ← unescape false none raw
    return (.quoted text true, rest)
  | '\'' :: '\'' :: '\'' :: rest => do
    let (raw, rest) ← cutQuotedLines '\'' false rest
    let text := withoutFirstLineEnd raw
    if text.all fun character => isPlain character || isLineEnd character then
      some (.quoted text false, rest)
    else none
  | '\'' :: rest => do
    let (raw, rest) ← cutQuoted '\'' false rest
    if raw.all isPlain then some (.quoted raw true, rest) else none
  | _ => none

/-- The mark that a character is. -/
def mark? : Char → Option Token
  | '\n' => some .newline
  | '[' => some .openBracket
  | ']' => some .closeBracket
  | '\x7b' => some .openBrace
  | '\x7d' => some .closeBrace
  | ',' => some .comma
  | '=' => some .equals
  | _ => none

/-- The first token of a document and what follows it. A comment is no token, nor is the carriage
return before a line feed. -/
def firstToken? (text : List Char) : Option (Option Token × List Char) :=
  match text with
  | [] => none
  | first :: rest =>
    match mark? first with
    | some token => some (some token, rest)
    | none =>
      if isBlank first then
        let blanks := text.takeWhile isBlank
        some (some (.blank (blanks = [' '])), text.dropWhile isBlank)
      else if first = '\r' then some (none, rest)
      else if first = '#' then
        let isInside := fun character => !isLineEnd character
        if (rest.takeWhile isInside).all isPlain then some (none, rest.dropWhile isInside) else none
      else if isRunChar first then
        some (some (.run (text.takeWhile isRunChar)), text.dropWhile isRunChar)
      else (quotedToken? text).map fun read => (some read.1, read.2)

/-- What follows a quoted text at the start of a document is shorter than the document. -/
theorem length_of_quotedToken? {text : List Char} {read : Token × List Char}
    (found : quotedToken? text = some read) : read.2.length < text.length := by
  unfold quotedToken? at found
  split at found
  · obtain ⟨cut, foundCut, found⟩ := Option.bind_eq_some_iff.mp found
    obtain ⟨_, _, found⟩ := Option.bind_eq_some_iff.mp found
    obtain rfl := Option.some.inj found
    have shorter := length_of_cutQuotedLines foundCut
    simp only [List.length_cons]
    omega
  · obtain ⟨cut, foundCut, found⟩ := Option.bind_eq_some_iff.mp found
    obtain ⟨_, _, found⟩ := Option.bind_eq_some_iff.mp found
    obtain rfl := Option.some.inj found
    have shorter := length_of_cutQuoted foundCut
    simp only [List.length_cons]
    omega
  · obtain ⟨cut, foundCut, found⟩ := Option.bind_eq_some_iff.mp found
    simp only [Option.ite_none_right_eq_some, Option.some.injEq] at found
    obtain ⟨_, rfl⟩ := found
    have shorter := length_of_cutQuotedLines foundCut
    simp only [List.length_cons]
    omega
  · obtain ⟨cut, foundCut, found⟩ := Option.bind_eq_some_iff.mp found
    simp only [Option.ite_none_right_eq_some, Option.some.injEq] at found
    obtain ⟨_, rfl⟩ := found
    have shorter := length_of_cutQuoted foundCut
    simp only [List.length_cons]
    omega
  · simp at found

/-- What follows the first token of a document is shorter than the document. -/
theorem length_of_firstToken? {text : List Char} {read : Option Token × List Char}
    (found : firstToken? text = some read) : read.2.length < text.length := by
  unfold firstToken? at found
  split at found
  · simp at found
  · next first rest =>
    have dropped (condition : Char → Bool) : (rest.dropWhile condition).length ≤ rest.length :=
      (List.dropWhile_sublist condition).length_le
    split at found
    · simp [← Option.some.inj found]
    · split at found
      · next blank =>
        have shorter := dropped isBlank
        simp only [← Option.some.inj found, List.dropWhile_cons_of_pos blank, List.length_cons]
        omega
      · split at found
        · simp [← Option.some.inj found]
        · split at found
          · simp only [Option.ite_none_right_eq_some, Option.some.injEq] at found
            obtain ⟨_, rfl⟩ := found
            have shorter := dropped fun character => !isLineEnd character
            simp only [List.length_cons]
            omega
          · split at found
            · next inRun =>
              have shorter := dropped isRunChar
              simp only [← Option.some.inj found, List.dropWhile_cons_of_pos inRun,
                List.length_cons]
              omega
            · obtain ⟨quoted, foundQuoted, rfl⟩ := Option.map_eq_some_iff.mp found
              exact length_of_quotedToken? foundQuoted

/-- The tokens of a text in which a line feed follows each carriage return. -/
def tokensOf? (text : List Char) : Option (List Token) :=
  if text.isEmpty then some []
  else
    match found : firstToken? text with
    | none => none
    | some (token, rest) =>
      have := length_of_firstToken? found
      (tokensOf? rest).map fun tokens => token.toList ++ tokens
termination_by text.length

/-- The tokens of a document, which may start with a byte order mark. -/
def tokens? (text : List Char) : Option (List Token) :=
  let written := (Text.dropStart? ['\ufeff'] text).getD text
  if endsLines written then tokensOf? written else none

end FleetPlan.Toml
