import FleetPlan.Shell

/-!
# How a shell reads words

`tokens?` splits a command line as a POSIX shell does, as far as commands here need
it: words of literal characters, single and double quotes, and redirections that
stand apart. It refuses any other character outside of quotes, and quotes that stay
open. Nothing is expanded and nothing is escaped inside quotes. `words?` reads a
line without redirections.

What is read in front of a blank does not depend on what follows it
(`tokens?_append_space`), and a quoted text is read as this text (`tokens?_quote`),
so that joined texts are read as these texts after whatever words stand before
them (`words?_append_join`).
-/

namespace FleetPlan.Shell

/-- A part of a command line. -/
inductive Token where
  | word (text : String)
  /-- What the command writes goes into the file that is named next. -/
  | into
  deriving DecidableEq, Repr

/-- Characters that stand between words. -/
def isBlank (character : Char) : Bool := character = ' ' || character = '\t'

/-- Characters that open and close quotes. -/
def isQuoteMark (character : Char) : Bool := character = '\'' || character = '"'

/-- The word that was begun, if one was. -/
def begun (word : Option (List Char)) : List Token :=
  (word.map fun text => Token.word (String.ofList text)).toList

/-- Read the rest of a line, with the mark of the quotes that are open and the characters of the word
that was begun. -/
def tokensFrom : (mark : Option Char) → (word : Option (List Char)) → List Char →
    Option (List Token)
  | none, word, [] => some (begun word)
  | some _, _, [] => none
  | some mark, word, character :: rest =>
    if character = mark then tokensFrom none word rest
    else tokensFrom (some mark) (some (word.getD [] ++ [character])) rest
  | none, word, character :: rest =>
    if isBlank character then (tokensFrom none none rest).map (begun word ++ ·)
    else if isQuoteMark character then tokensFrom (some character) (some (word.getD [])) rest
    else if isSafe character then tokensFrom none (some (word.getD [] ++ [character])) rest
    else if character = '>' && word.isNone then
      (tokensFrom none none rest).map (Token.into :: ·)
    else none

/-- The tokens of a command line. -/
def tokens? (line : String) : Option (List Token) := tokensFrom none none line.toList

/-- The text of a word. -/
def Token.text? : Token → Option String
  | .word text => some text
  | .into => none

/-- The words of a command line without redirections. -/
def words? (line : String) : Option (List String) := do (← tokens? line).mapM Token.text?

/-- A list of tokens has the words of a list of texts exactly if it is made of them. -/
theorem mapM_text?_eq_some_iff {tokens : List Token} {texts : List String} :
    tokens.mapM Token.text? = some texts ↔ tokens = texts.map Token.word := by
  induction tokens generalizing texts with
  | nil => cases texts <;> simp
  | cons token tokens inductionHypothesis =>
    cases texts with
    | nil => cases token <;> simp [Token.text?, Option.bind_eq_some_iff]
    | cons text texts =>
      cases token with
      | into => simp [Token.text?]
      | word own =>
        simp only [List.mapM_cons, Token.text?, Option.bind_eq_bind, Option.bind_some,
          Option.bind_eq_some_iff, inductionHypothesis, Option.pure_def, Option.some.injEq,
          List.cons.injEq, List.map_cons, Token.word.injEq]
        exact ⟨fun ⟨_, rest, same, others⟩ => ⟨same, others ▸ rest⟩,
          fun ⟨same, rest⟩ => ⟨texts, rest, same, rfl⟩⟩

/-- A line is read as words exactly if its tokens are these words. -/
theorem words?_eq_some_iff {line : String} {texts : List String} :
    words? line = some texts ↔ tokens? line = some (texts.map Token.word) := by
  cases read : tokens? line with
  | none => simp [words?, read]
  | some tokens => simp [words?, read, mapM_text?_eq_some_iff]

/-- A safe character neither stands between words nor opens quotes. -/
theorem isSafe_plain {character : Char} (safe : isSafe character = true) :
    isBlank character = false ∧ isQuoteMark character = false := by
  have marks : ([' ', '\t', '\'', '"'].all fun mark => !isSafe mark) = true := by decide
  have other : ∀ mark ∈ [' ', '\t', '\'', '"'], character ≠ mark := by
    intro mark listed same
    have notSafe := List.all_eq_true.mp marks mark listed
    rw [← same, safe] at notSafe
    cases notSafe
  constructor
  · simp [isBlank, other]
  · simp [isQuoteMark, other]

/-- A safe character is one more character of a word. -/
theorem tokensFrom_cons_of_isSafe {character : Char} (safe : isSafe character = true)
    (word : Option (List Char)) (rest : List Char) :
    tokensFrom none word (character :: rest) =
      tokensFrom none (some (word.getD [] ++ [character])) rest := by
  obtain ⟨notBlank, notQuoteMark⟩ := isSafe_plain safe
  simp [tokensFrom, notBlank, notQuoteMark, safe]

/-- A blank ends the word before it. -/
theorem tokensFrom_cons_of_isBlank {character : Char} (blank : isBlank character = true)
    (word : Option (List Char)) (rest : List Char) :
    tokensFrom none word (character :: rest) =
      (tokensFrom none none rest).map (begun word ++ ·) := by
  simp [tokensFrom, blank]

/-- What stands in front of a blank is read as it is read alone. -/
theorem tokensFrom_append_blank {blank : Char} (ends : isBlank blank = true)
    {mark : Option Char} {word : Option (List Char)} {front : List Char} {tokens : List Token}
    (read : tokensFrom mark word front = some tokens) (rest : List Char) :
    tokensFrom mark word (front ++ blank :: rest) =
      (tokensFrom none none rest).map (tokens ++ ·) := by
  fun_induction tokensFrom mark word front generalizing tokens with
  | case1 word =>
    cases read
    exact tokensFrom_cons_of_isBlank ends word rest
  | case2 => cases read
  | case3 mark word text inductionHypothesis =>
    rw [List.cons_append, tokensFrom, if_pos rfl]
    exact inductionHypothesis read
  | case4 mark word character text inside inductionHypothesis =>
    rw [List.cons_append, tokensFrom, if_neg inside]
    exact inductionHypothesis read
  | case5 word character text blankHere inductionHypothesis =>
    obtain ⟨others, readOthers, rfl⟩ := Option.map_eq_some_iff.mp read
    rw [List.cons_append, tokensFrom_cons_of_isBlank blankHere, inductionHypothesis readOthers]
    simp [Function.comp_def, List.append_assoc]
  | case6 word character text notBlank opening inductionHypothesis =>
    rw [List.cons_append, tokensFrom, if_neg notBlank, if_pos opening]
    exact inductionHypothesis read
  | case7 word character text notBlank notOpening safe inductionHypothesis =>
    rw [List.cons_append, tokensFrom_cons_of_isSafe safe]
    exact inductionHypothesis read
  | case8 word character text notBlank notOpening unsafeHere redirects inductionHypothesis =>
    obtain ⟨others, readOthers, rfl⟩ := Option.map_eq_some_iff.mp read
    rw [List.cons_append, tokensFrom, if_neg notBlank, if_neg notOpening, if_neg unsafeHere,
      if_pos redirects, inductionHypothesis readOthers]
    simp [Function.comp_def]
  | case9 => cases read

/-- Safe characters are read as they stand. -/
theorem tokensFrom_append_of_safe {text : List Char} (safe : text.all isSafe = true)
    (front rest : List Char) :
    tokensFrom none (some front) (text ++ rest) = tokensFrom none (some (front ++ text)) rest := by
  induction text generalizing front with
  | nil => simp
  | cons character text inductionHypothesis =>
    obtain ⟨here, others⟩ := Bool.and_eq_true_iff.mp safe
    rw [List.cons_append, tokensFrom_cons_of_isSafe here, Option.getD_some,
      inductionHypothesis others, List.append_assoc, List.singleton_append]

/-- What was put between single quotes is read as it was, and the quotes are closed after it. -/
theorem tokensFrom_append_of_quoted (text front rest : List Char) :
    tokensFrom (some '\'') (some front) (text.flatMap quotedChar ++ '\'' :: rest) =
      tokensFrom none (some (front ++ text)) rest := by
  induction text generalizing front with
  | nil => simp [tokensFrom]
  | cons character text inductionHypothesis =>
    have next := inductionHypothesis (front ++ [character])
    rw [List.append_assoc, List.singleton_append] at next
    rw [← next]
    by_cases quoteMark : character = '\''
    · -- The quotes are closed, the mark is read between double quotes, and they are opened again.
      subst quoteMark
      simp [quotedChar, escapedQuote, tokensFrom, isBlank, isQuoteMark]
    · simp [quotedChar, quoteMark, tokensFrom]

/-- A quoted text is read as this text, in the word that was begun. -/
theorem tokensFrom_quoteChars (word : Option (List Char)) (text rest : List Char) :
    tokensFrom none word (quoteChars text ++ rest) =
      tokensFrom none (some (word.getD [] ++ text)) rest := by
  unfold quoteChars
  split
  · next empty =>
    rw [List.isEmpty_iff.mp empty]
    simp [tokensFrom, isBlank, isQuoteMark]
  · next nonempty =>
    split
    · next safe =>
      cases text with
      | nil => exact absurd rfl nonempty
      | cons character text =>
        obtain ⟨here, others⟩ := Bool.and_eq_true_iff.mp safe
        rw [List.cons_append, tokensFrom_cons_of_isSafe here,
          tokensFrom_append_of_safe others, List.append_assoc, List.singleton_append]
    · have opened : ∀ after, tokensFrom none word ('\'' :: after) =
          tokensFrom (some '\'') (some (word.getD [])) after := by
        intro after
        simp [tokensFrom, isBlank, isQuoteMark]
      rw [List.cons_append, opened, List.append_assoc, List.singleton_append,
        tokensFrom_append_of_quoted]

/-- Lines with a space between them are read as what they are read as alone. -/
theorem tokens?_append_space {front back : String} {first second : List Token}
    (readFront : tokens? front = some first) (readBack : tokens? back = some second) :
    tokens? (front ++ " " ++ back) = some (first ++ second) := by
  have parts : (front ++ " " ++ back).toList = front.toList ++ ' ' :: back.toList := by simp
  rw [tokens?] at readBack
  rw [tokens?, parts, tokensFrom_append_blank rfl readFront, readBack]
  rfl

/-- A quoted text is read as one word, which is this text. -/
theorem tokens?_quote (text : String) : tokens? (quote text) = some [.word text] := by
  have read := tokensFrom_quoteChars none text.toList []
  rw [List.append_nil] at read
  rw [tokens?, quote, String.toList_ofList, read]
  simp [tokensFrom, begun]

/-- Joined texts are read as these texts. -/
theorem tokens?_join (texts : List String) :
    tokens? (join texts) = some (texts.map Token.word) := by
  induction texts with
  | nil => rfl
  | cons text texts inductionHypothesis =>
    cases texts with
    | nil => simpa [join] using tokens?_quote text
    | cons next texts =>
      have parts : join (text :: next :: texts) = quote text ++ " " ++ join (next :: texts) := by
        simp [join, String.intercalate_cons_cons]
      rw [parts]
      exact tokens?_append_space (tokens?_quote text) inductionHypothesis

/-- Joined texts are read as these texts, after the words that stand before them. -/
theorem words?_append_join {line : String} {front : List String} (read : words? line = some front)
    (texts : List String) : words? (line ++ " " ++ join texts) = some (front ++ texts) := by
  rw [words?_eq_some_iff, List.map_append]
  exact tokens?_append_space (words?_eq_some_iff.mp read) (tokens?_join texts)

end FleetPlan.Shell
