import FleetPlan.Proofs.Shell.Words
import Mathlib.Tactic.SplitIfs

/-!
# How a shell reads command lines

`parts?` reads a line that may hold more than the words of one command: a command in
backquotes, whose output is read as words, redirections, and a command to run where
the one before it fails. Outside of quotes it takes every character for itself that a
POSIX shell keeps in an argument, and these are more than the safe ones.

A word with a pattern mark outside of quotes is a pattern. `partsOn?` reads a line on
a host: the paths that fit a pattern stand in its place, and the pattern stands for
itself where none does, as with a bracket that is never closed. It treats the target of
a redirection as it treats an argument, which a shell need not do.

Other lines are refused. They have a character outside of quotes that ends a word or is
taken away (`isSpecial`), one whose meaning only the host knows (`dependsOnHost`), or
quotes and pattern marks in one word. Whether the parts of a line follow each other as
they should is not asked, and a line may hold any characters.

A text is quoted so that it is read back as one word (`parts?_quote`). A text that
stands in a line as it is, without quotes, is read whole exactly if its characters all
stay in a word (`read_of_isBareWord`, `isBareWord_of_first?`): whatever a shell makes
of another text, the first word that it finds there is shorter (`length_lt_of_first?`).
A line without pattern marks is read the same on every host (`partsOn?_of_plain`).
-/

namespace FleetPlan.Shell

/-- A part of a command line. -/
inductive Part where
  | word (text : String)
  /-- A word that stands for the paths of the host that fit it. -/
  | pattern (text : String)
  /-- What the command writes goes into the file that is named next. -/
  | into
  /-- The errors of the command go into the file that is named next. -/
  | errorsInto
  /-- The start or the end of a command whose output is read as words. -/
  | backquote
  /-- The next command runs if the one before fails. -/
  | orElse
  deriving DecidableEq, Repr

/-- Characters that no shell keeps in a word where they stand outside of quotes, except perhaps a dollar
sign and a backquote, of which the host has to be asked. -/
def specials : List Char :=
  [' ', '\t', '\n', '\'', '"', '\\', '$', '`', '|', '&', ';', '<', '>', '(', ')']

/-- Whether a character is not kept in a word where it stands outside of quotes. -/
def isSpecial (character : Char) : Bool := specials.contains character

/-- Whether a character means something at the start of a word: a comment, or somebody's home. -/
def isSpecialAtStart (character : Char) : Bool := ['#', '~'].contains character

/-- Characters that make a pattern of the word in which they stand outside of quotes. -/
def patternMarks : List Char := ['*', '?', '[']

/-- Whether a character makes a pattern of its word. -/
def isPatternMark (character : Char) : Bool := patternMarks.contains character

/-- Whether a text is a pattern where it is written without quotes. -/
def isPattern (text : List Char) : Bool := text.any isPatternMark

/-- Characters that mean something between quotes: double quotes do not keep all characters from a
shell, and those of a command in backquotes are looked at before the command is. -/
def isSpecialBetween (inside : Bool) (mark character : Char) : Bool :=
  (mark = '"' && ['$', '`', '\\'].contains character) ||
    (inside && ['`', '\\'].contains character)

/-- Whether each character of a text stays in the word where the text is written without quotes. -/
def isBareWord (text : List Char) : Bool :=
  text.all (fun character => !isSpecial character) && !text.head?.any isSpecialAtStart

/-- Whether it takes the host to say what is read where a text is written without quotes: the values of
variables, what a command writes, whose home is meant, or which paths fit a pattern. -/
def dependsOnHost (text : List Char) : Bool :=
  text.any (fun character => ['$', '`'].contains character) || text.head? = some '~' ||
    isPattern text

/-- A text of which the host has nothing to say is no pattern. -/
theorem isPattern_of_not_dependsOnHost {text : List Char} (alone : dependsOnHost text = false) :
    isPattern text = false :=
  (Bool.or_eq_false_iff.mp alone).2

/-- The part that a finished word is. No pattern mark stands outside of the quotes of a word that has
some. -/
def Part.ofWord (hadQuotes : Bool) (text : List Char) : Part :=
  if !hadQuotes && isPattern text then .pattern (String.ofList text) else .word (String.ofList text)

/-- Where in a line a shell is. -/
inductive Place where
  /-- Between words. -/
  | apart
  /-- Behind a two that starts a word, or that stands for the errors if a redirection follows. -/
  | two
  /-- In a word, behind quotes or with none so far. -/
  | word (hadQuotes : Bool) (text : List Char)
  /-- In a word, between quotes. -/
  | quoted (mark : Char) (text : List Char)
  /-- Behind the first of two bars. -/
  | bar
  /-- Behind what stands apart from the next word. -/
  | ended
  deriving DecidableEq, Repr

/-- What some characters of a line give: the parts that they complete, whether a command in backquotes
is open behind them, and where the shell is. -/
structure Reading where
  completed : List Part
  inside : Bool
  place : Place
  deriving DecidableEq, Repr

/-- Read one more character where a word was begun. -/
def readInWord (inside hadQuotes : Bool) (text : List Char) (character : Char) : Option Reading :=
  if isBlank character then some ⟨[.ofWord hadQuotes text], inside, .apart⟩
  else if isQuoteMark character then
    if !hadQuotes && isPattern text then none else some ⟨[], inside, .quoted character text⟩
  else if character = '|' then some ⟨[.ofWord hadQuotes text], inside, .bar⟩
  else if character = '`' && inside then
    some ⟨[.ofWord hadQuotes text, .backquote], false, .ended⟩
  else if isSpecial character || (hadQuotes && isPatternMark character) then none
  else some ⟨[], inside, .word hadQuotes (text ++ [character])⟩

/-- Read one more character between words. -/
def readApart (inside : Bool) (character : Char) : Option Reading :=
  if isBlank character then some ⟨[], inside, .apart⟩
  else if isQuoteMark character then some ⟨[], inside, .quoted character []⟩
  else if character = '|' then some ⟨[], inside, .bar⟩
  else if character = '`' then some ⟨[.backquote], !inside, if inside then .ended else .apart⟩
  else if character = '>' then some ⟨[.into], inside, .ended⟩
  else if character = '2' then some ⟨[], inside, .two⟩
  else if isSpecial character || isSpecialAtStart character then none
  else some ⟨[], inside, .word false [character]⟩

/-- Read one more character of a line. -/
def readChar (inside : Bool) (place : Place) (character : Char) : Option Reading :=
  match place with
  | .apart => readApart inside character
  | .two =>
    if character = '>' then some ⟨[.errorsInto], inside, .ended⟩
    else readInWord inside false ['2'] character
  | .word hadQuotes text => readInWord inside hadQuotes text character
  | .quoted mark text =>
    if isSpecialBetween inside mark character then none
    else if character = mark then some ⟨[], inside, .word true text⟩
    else some ⟨[], inside, .quoted mark (text ++ [character])⟩
  | .bar => if character = '|' then some ⟨[.orElse], inside, .ended⟩ else none
  | .ended => if isBlank character then some ⟨[], inside, .apart⟩ else none

/-- One reading after another. -/
def Reading.andThen (first later : Reading) : Reading :=
  { later with completed := first.completed ++ later.completed }

/-- Read more characters of a line. -/
def read (inside : Bool) (place : Place) : List Char → Option Reading
  | [] => some ⟨[], inside, place⟩
  | character :: rest =>
    (readChar inside place character).bind fun first =>
      (read first.inside first.place rest).map first.andThen

/-- What the end of a line completes, if the line may end at a place. -/
def Place.finish? : Place → Option (List Part)
  | .apart => some []
  | .two => some [.word "2"]
  | .word hadQuotes text => some [.ofWord hadQuotes text]
  | .quoted .. => none
  | .bar => none
  | .ended => some []

/-- The parts of a line that ends here. -/
def Reading.parts? (reading : Reading) : Option (List Part) :=
  if reading.inside then none else reading.place.finish?.map (reading.completed ++ ·)

/-- The parts of a command line. -/
def parts? (line : String) : Option (List Part) :=
  (read false .apart line.toList).bind Reading.parts?

/-- The paths that a text means on a host with the paths that fit a pattern: those that fit it, or the
text itself if it is no pattern or fits none. -/
def meant (matching : String → List String) (text : String) : List String :=
  if isPattern text.toList && !(matching text).isEmpty then matching text else [text]

/-- What a part of a line is on a host. -/
def Part.expand (matching : String → List String) : Part → List Part
  | .pattern text => (meant matching text).map .word
  | part => [part]

/-- The parts of a command line on a host. -/
def partsOn? (matching : String → List String) (line : String) : Option (List Part) :=
  (parts? line).map fun parts => parts.flatMap (Part.expand matching)

section Reading

variable {inside : Bool} {place : Place} {character : Char} {text : List Char}
  {first later reading : Reading}

/-- Readings may be put together in any order. -/
theorem Reading.andThen_assoc (first middle later : Reading) :
    (first.andThen middle).andThen later = first.andThen (middle.andThen later) := by
  simp [andThen]

/-- A character is read, and then what follows it. -/
theorem read_cons (readFirst : readChar inside place character = some first)
    (readLater : read first.inside first.place text = some later) :
    read inside place (character :: text) = some (first.andThen later) := by
  rw [read, readFirst, Option.bind_some, readLater, Option.map_some]

/-- What was read is what a character gives, and then what follows it. -/
theorem exists_of_read_cons (both : read inside place (character :: text) = some reading) :
    ∃ first later, readChar inside place character = some first ∧
      read first.inside first.place text = some later ∧ reading = first.andThen later := by
  obtain ⟨first, readFirst, both⟩ := Option.bind_eq_some_iff.mp both
  obtain ⟨later, readLater, rfl⟩ := Option.map_eq_some_iff.mp both
  exact ⟨first, later, readFirst, readLater, rfl⟩

/-- Characters are read one after the other. -/
theorem read_append (inside : Bool) (place : Place) (front back : List Char) :
    read inside place (front ++ back) =
      (read inside place front).bind fun first =>
        (read first.inside first.place back).map first.andThen := by
  induction front generalizing inside place with
  | nil =>
    have same : (⟨[], inside, place⟩ : Reading).andThen = id := rfl
    rw [List.nil_append, read, Option.bind_some, same, Option.map_id, id]
  | cons character front inductionHypothesis =>
    rw [List.cons_append, read, read, Option.bind_assoc]
    refine congrArg _ (funext fun first => ?_)
    rw [inductionHypothesis]
    cases read first.inside first.place front with
    | none => rfl
    | some middle =>
      have assoc : (first.andThen middle).andThen = first.andThen ∘ middle.andThen :=
        funext (first.andThen_assoc middle)
      simp only [Option.bind_some, Option.map_some, Option.map_map, assoc]
      rfl

/-- Some characters are read, and then what follows them. -/
theorem read_append_of_read {front back : List Char} (readFront : read inside place front = some first)
    (readBack : read first.inside first.place back = some later) :
    read inside place (front ++ back) = some (first.andThen later) := by
  rw [read_append, readFront, Option.bind_some, readBack, Option.map_some]

/-- What was read is what some characters give, and then what follows them. -/
theorem exists_of_read_append {front back : List Char}
    (both : read inside place (front ++ back) = some reading) :
    ∃ first later, read inside place front = some first ∧
      read first.inside first.place back = some later ∧ reading = first.andThen later := by
  rw [read_append, Option.bind_eq_some_iff] at both
  obtain ⟨first, readFront, both⟩ := both
  obtain ⟨later, readBack, rfl⟩ := Option.map_eq_some_iff.mp both
  exact ⟨first, later, readFront, readBack, rfl⟩

/-- What follows some characters is read from where these leave a shell. -/
theorem exists_of_read_append_of_read {front back : List Char}
    (readFront : read inside place front = some first)
    (both : read inside place (front ++ back) = some reading) :
    ∃ later, read first.inside first.place back = some later ∧ reading = first.andThen later := by
  obtain ⟨other, later, readOther, readLater, same⟩ := exists_of_read_append both
  rw [readFront, Option.some.injEq] at readOther
  subst readOther
  exact ⟨later, readLater, same⟩

/-- A blank completes what the end of the line would. -/
theorem readChar_of_isBlank (blank : isBlank character = true) {ending : List Part}
    (ends : place.finish? = some ending) :
    readChar inside place character = some ⟨ending, inside, .apart⟩ := by
  have other : character ≠ '>' := by
    rintro rfl
    revert blank
    decide
  cases place with
  | apart => cases ends; simp [readChar, readApart, blank]
  | two =>
    have number : Part.ofWord false ['2'] = .word "2" := rfl
    cases ends
    simp [readChar, readInWord, blank, other, number]
  | word hadQuotes text => cases ends; simp [readChar, readInWord, blank]
  | quoted mark text => cases ends
  | bar => cases ends
  | ended => cases ends; simp [readChar, blank]

/-- A line is read as what is completed on it and at its end, where no command in backquotes is open. -/
theorem parts?_eq_some_iff {line : String} {parts : List Part} :
    parts? line = some parts ↔
      ∃ completed place ending, read false .apart line.toList = some ⟨completed, false, place⟩ ∧
        place.finish? = some ending ∧ parts = completed ++ ending := by
  constructor
  · intro whole
    obtain ⟨⟨completed, inside, place⟩, readLine, whole⟩ := Option.bind_eq_some_iff.mp whole
    cases inside with
    | true => cases whole
    | false =>
      obtain ⟨ending, ends, rfl⟩ := Option.map_eq_some_iff.mp whole
      exact ⟨completed, place, ending, readLine, ends, rfl⟩
  · rintro ⟨completed, place, ending, readLine, ends, rfl⟩
    simp [parts?, readLine, Reading.parts?, ends]

/-- Lines with a space between them are read as what they are read as alone. -/
theorem parts?_append_space {front back : String} {before after : List Part}
    (readFront : parts? front = some before) (readBack : parts? back = some after) :
    parts? (front ++ " " ++ back) = some (before ++ after) := by
  obtain ⟨first, place, ending, readFirst, ends, rfl⟩ := parts?_eq_some_iff.mp readFront
  obtain ⟨later, placeLater, endingLater, readLater, endsLater, rfl⟩ :=
    parts?_eq_some_iff.mp readBack
  have spaced : (front ++ " " ++ back).toList = front.toList ++ ' ' :: back.toList := by simp
  have blank : readChar false place ' ' = some ⟨ending, false, .apart⟩ :=
    readChar_of_isBlank rfl ends
  have readBoth : read false place (' ' :: back.toList) =
      some ⟨ending ++ later, false, placeLater⟩ := read_cons blank readLater
  refine parts?_eq_some_iff.mpr
    ⟨first ++ (ending ++ later), placeLater, endingLater, ?_, endsLater, ?_⟩
  · rw [spaced]
    exact read_append_of_read readFirst readBoth
  · simp only [List.append_assoc]

end Reading

section Bare

variable {inside : Bool} {character : Char} {text : List Char}

/-- Where a shell is behind the characters of a word without quotes. -/
def Place.behind (text : List Char) : Place := if text = ['2'] then .two else .word false text

/-- The end of the line completes the word that was begun. -/
theorem Place.finish?_behind (text : List Char) :
    (Place.behind text).finish? = some [.ofWord false text] := by
  unfold behind
  split
  · next same => rw [same]; rfl
  · rfl

/-- A word that is no pattern is its text. -/
theorem Part.ofWord_of_plain {hadQuotes : Bool} (plain : isPattern text = false) :
    Part.ofWord hadQuotes text = .word (String.ofList text) := by
  simp [ofWord, plain]

/-- A character that means nothing special is none of those that end a word or open quotes. -/
theorem isSpecial_plain (plain : isSpecial character = false) :
    isBlank character = false ∧ isQuoteMark character = false ∧ character ≠ '|' ∧
      character ≠ '`' ∧ character ≠ '>' := by
  simp only [isSpecial, specials, List.contains_eq_mem, List.mem_cons, List.not_mem_nil, or_false,
    decide_eq_false_iff_not, not_or] at plain
  simp [isBlank, isQuoteMark, plain]

/-- A safe character means nothing special. -/
theorem isSpecial_of_isSafe (safe : isSafe character = true) :
    isSpecial character = false ∧ isSpecialAtStart character = false ∧
      isPatternMark character = false := by
  have marks : ((specials ++ ['#', '~'] ++ patternMarks).all fun mark => !isSafe mark) = true := by
    decide
  have other : character ∉ specials ++ ['#', '~'] ++ patternMarks := by
    intro listed
    have notSafe := List.all_eq_true.mp marks character listed
    rw [safe] at notSafe
    cases notSafe
  rw [List.mem_append, List.mem_append, not_or, not_or] at other
  obtain ⟨⟨notSpecial, notAtStart⟩, noMark⟩ := other
  exact ⟨by simpa [isSpecial] using notSpecial, by simpa [isSpecialAtStart] using notAtStart,
    by simpa [isPatternMark] using noMark⟩

/-- Safe characters make no pattern. -/
theorem isPattern_of_isSafe (safe : text.all isSafe = true) : isPattern text = false := by
  refine List.any_eq_false.mpr fun character member => ?_
  rw [(isSpecial_of_isSafe (List.all_eq_true.mp safe character member)).2.2]
  exact Bool.false_ne_true

/-- A text in front of safe characters is a pattern exactly if it is one alone. -/
theorem isPattern_append_of_isSafe (front : List Char) {back : List Char}
    (safe : back.all isSafe = true) : isPattern (front ++ back) = isPattern front := by
  have plain : back.any isPatternMark = false := isPattern_of_isSafe safe
  rw [isPattern, List.any_append, plain, Bool.or_false]
  rfl

/-- A text in front of safe characters is a bare word exactly if it is one alone. -/
theorem isBareWord_append_of_isSafe (front : List Char) {back : List Char}
    (safe : back.all isSafe = true) :
    isBareWord (front ++ back) = isBareWord front := by
  have plain : back.all (fun character => !isSpecial character) = true := by
    refine List.all_eq_true.mpr fun character member => ?_
    rw [(isSpecial_of_isSafe (List.all_eq_true.mp safe character member)).1, Bool.not_false]
  unfold isBareWord
  rw [List.all_append, plain, Bool.and_true]
  cases front with
  | cons character front => rfl
  | nil =>
    cases back with
    | nil => rfl
    | cons character back =>
      have here := (isSpecial_of_isSafe (List.all_eq_true.mp safe character (.head _))).2.1
      simp [here]

/-- A character that means nothing special is one more character of a word. -/
theorem readChar_behind (plain : isSpecial character = false) (started : text ≠ []) :
    readChar inside (.behind text) character =
      some ⟨[], inside, .behind (text ++ [character])⟩ := by
  obtain ⟨notBlank, notQuoteMark, notBar, notBackquote, notInto⟩ := isSpecial_plain plain
  have longer : Place.behind (text ++ [character]) = .word false (text ++ [character]) := by
    refine if_neg fun same => started ?_
    exact (List.append_eq_singleton_iff.mp same).elim And.left fun other => by simp at other
  have inWord : readInWord inside false text character =
      some ⟨[], inside, .word false (text ++ [character])⟩ := by
    simp [readInWord, notBlank, notQuoteMark, notBar, notBackquote, plain]
  rw [longer, ← inWord, Place.behind]
  split
  · next same => rw [same, readChar, if_neg notInto]
  · rfl

/-- Characters that mean nothing special are read as they stand in a word. -/
theorem read_behind {more : List Char} (plain : more.all (fun character => !isSpecial character) = true)
    (started : text ≠ []) :
    read inside (.behind text) more = some ⟨[], inside, .behind (text ++ more)⟩ := by
  induction more generalizing text with
  | nil => rw [List.append_nil]; rfl
  | cons character more inductionHypothesis =>
    obtain ⟨here, others⟩ := Bool.and_eq_true_iff.mp plain
    have rest : read inside (.behind (text ++ [character])) more =
        some ⟨[], inside, .behind (text ++ [character] ++ more)⟩ :=
      inductionHypothesis others (by simp)
    rw [List.append_assoc, List.singleton_append] at rest
    exact read_cons (readChar_behind (by simpa using here) started) rest

/-- A character that means nothing special starts a word. -/
theorem readChar_apart (plain : isSpecial character = false)
    (start : isSpecialAtStart character = false) :
    readChar inside .apart character = some ⟨[], inside, .behind [character]⟩ := by
  obtain ⟨notBlank, notQuoteMark, notBar, notBackquote, notInto⟩ := isSpecial_plain plain
  by_cases two : character = '2'
  · rw [two]
    rfl
  · simp [readChar, readApart, Place.behind, notBlank, notQuoteMark, notBar, notBackquote, notInto,
      two, plain, start]

/-- A bare word is read whole. -/
theorem read_of_isBareWord (bare : isBareWord text = true) (nonempty : text ≠ []) :
    read inside .apart text = some ⟨[], inside, .behind text⟩ := by
  cases text with
  | nil => exact absurd rfl nonempty
  | cons character text =>
    obtain ⟨plain, start⟩ := Bool.and_eq_true_iff.mp bare
    obtain ⟨here, others⟩ := Bool.and_eq_true_iff.mp plain
    exact read_cons (readChar_apart (by simpa using here) (by simpa using start))
      (read_behind others (by simp))

/-- What was put between single quotes is read as it was, and the quotes are closed after it. -/
theorem read_quoted (text front : List Char) :
    read false (.quoted '\'' front) (text.flatMap quotedChar ++ ['\'']) =
      some ⟨[], false, .word true (front ++ text)⟩ := by
  induction text generalizing front with
  | nil => rw [List.append_nil]; rfl
  | cons character text inductionHypothesis =>
    have next : read false (.quoted '\'' front) (quotedChar character) =
        some ⟨[], false, .quoted '\'' (front ++ [character])⟩ := by
      unfold quotedChar
      split
      · next quoteMark => rw [quoteMark]; rfl
      · next other => simp [read, readChar, other, isSpecialBetween, Reading.andThen]
    have rest := inductionHypothesis (front ++ [character])
    rw [List.append_assoc, List.singleton_append] at rest
    rw [List.flatMap_cons, List.append_assoc]
    exact read_append_of_read next rest

/-- A quoted text is read as a word that is this text, whatever marks are in it. -/
theorem read_quoteChars (text : List Char) :
    ∃ place, read false .apart (quoteChars text) = some ⟨[], false, place⟩ ∧
      place.finish? = some [.word (String.ofList text)] := by
  unfold quoteChars
  split
  · next empty =>
    rw [List.isEmpty_iff.mp empty]
    exact ⟨.word true [], rfl, rfl⟩
  · next nonempty =>
    split
    · next safe =>
      have bare : isBareWord text = true := isBareWord_append_of_isSafe [] safe
      refine ⟨_, read_of_isBareWord bare (by simpa using nonempty), ?_⟩
      rw [Place.finish?_behind, Part.ofWord_of_plain (isPattern_of_isSafe safe)]
    · have opened : readChar false .apart '\'' = some ⟨[], false, .quoted '\'' []⟩ := rfl
      exact ⟨_, read_cons opened (read_quoted text []), rfl⟩

/-- A quoted text is read as one word, which is this text. -/
theorem parts?_quote (text : String) : parts? (quote text) = some [.word text] := by
  obtain ⟨place, readText, ends⟩ := read_quoteChars text.toList
  refine parts?_eq_some_iff.mpr ⟨[], place, _, ?_, ends, ?_⟩
  · rw [quote, String.toList_ofList]
    exact readText
  · rw [List.nil_append, String.ofList_toList]

end Bare

section First

variable {inside : Bool} {place : Place} {character : Char} {text : List Char} {word : String}
  {first later reading : Reading}

/-- The first part of a line that ends behind a reading. -/
def Reading.first? (reading : Reading) : Option Part :=
  (reading.completed ++ reading.place.finish?.getD []).head?

/-- One more than the number of characters of the word that was begun; in quotes, which take a character
to be closed, just as many. -/
def Place.reach : Place → Nat
  | .apart => 1
  | .two => 2
  | .word _ text => text.length + 1
  | .quoted _ text => text.length
  | .bar => 1
  | .ended => 1

/-- Whether one more character may be one more of the word. -/
def Place.takes (place : Place) (character : Char) : Bool :=
  match place with
  | .apart => !isSpecial character && !isSpecialAtStart character
  | .two => !isSpecial character
  | .word .. => !isSpecial character
  | .quoted .. => true
  | .bar => false
  | .ended => false

/-- How far a shell is behind the characters of a word. -/
theorem Place.reach_behind (text : List Char) : (Place.behind text).reach = text.length + 1 := by
  unfold behind
  split
  · next two => rw [two]; rfl
  · rfl

/-- A word that was begun takes what means nothing special. -/
theorem Place.takes_behind (text : List Char) (character : Char) :
    (Place.behind text).takes character = !isSpecial character := by
  unfold behind
  split <;> rfl

/-- What one more character of a line does: it completes something, first of all the word that was begun,
or it completes nothing and is at most one more character of that word. -/
inductive Progress (inside : Bool) (place : Place) (character : Char) (first : Reading) : Prop where
  | completes (part : Part) (more : List Part) (completed : first.completed = part :: more)
      (begun : ∀ word, part = .word word → word.toList.length < place.reach)
  | reaches (nothing : first.completed = []) (still : first.inside = inside)
      (further : first.place.reach ≤ place.reach + (place.takes character).toNat)

/-- The text of a finished word. -/
theorem Part.eq_of_ofWord {hadQuotes : Bool} (finished : Part.ofWord hadQuotes text = .word word) :
    word = String.ofList text := by
  unfold ofWord at finished
  split at finished <;> cases finished
  rfl

/-- What one more character of a word does. -/
theorem progress_of_readInWord {hadQuotes : Bool}
    (read : readInWord inside hadQuotes text character = some first) :
    Progress inside (.word hadQuotes text) character first := by
  have begun : ∀ word, Part.ofWord hadQuotes text = .word word →
      word.toList.length < (Place.word hadQuotes text).reach := by
    intro word finished
    simp [Part.eq_of_ofWord finished, Place.reach]
  unfold readInWord at read
  split_ifs at read with blank quoteMark pattern bar closes plain
  · cases read
    exact .completes _ _ rfl begun
  · -- To open quotes costs a character, which is given back where they are closed.
    cases read
    exact .reaches rfl rfl (by simp only [Place.reach]; omega)
  · cases read
    exact .completes _ _ rfl begun
  · cases read
    exact .completes _ _ rfl begun
  · cases read
    rw [Bool.or_eq_true, not_or] at plain
    exact .reaches rfl rfl (by simp [Place.reach, Place.takes, plain])

/-- What one more character between words does. -/
theorem progress_of_readApart (read : readApart inside character = some first) :
    Progress inside .apart character first := by
  have sign : ∀ part : Part, (∀ word, part ≠ .word word) →
      ∀ word, part = .word word → word.toList.length < Place.apart.reach :=
    fun _ other word same => absurd same (other word)
  unfold readApart at read
  split_ifs at read with blank quoteMark bar backquote closing into two plain
  · cases read
    exact .reaches rfl rfl (by simp [Place.reach])
  · cases read
    exact .reaches rfl rfl (by simp [Place.reach])
  · cases read
    exact .reaches rfl rfl (by simp [Place.reach])
  · cases read
    exact .completes _ _ rfl (sign _ (by simp))
  · cases read
    exact .completes _ _ rfl (sign _ (by simp))
  · cases read
    exact .completes _ _ rfl (sign _ (by simp))
  · cases read
    have taken : Place.apart.takes '2' = true := by decide
    exact .reaches rfl rfl (by simp [two, taken, Place.reach])
  · cases read
    rw [Bool.or_eq_true, not_or] at plain
    exact .reaches rfl rfl (by simp [Place.reach, Place.takes, plain])

/-- What one more character of a line does. -/
theorem progress_of_readChar (read : readChar inside place character = some first) :
    Progress inside place character first := by
  cases place with
  | apart => exact progress_of_readApart read
  | two =>
    rw [readChar] at read
    split at read
    · cases read
      exact .completes _ _ rfl fun _ other => by cases other
    · cases progress_of_readInWord read with
      | completes part more completed begun => exact .completes part more completed begun
      | reaches nothing still further => exact .reaches nothing still further
  | word hadQuotes text => exact progress_of_readInWord read
  | quoted mark text =>
    rw [readChar] at read
    split_ifs at read with special closing
    · cases read
      exact .reaches rfl rfl (by simp [Place.reach, Place.takes])
    · cases read
      exact .reaches rfl rfl (by simp [Place.reach, Place.takes])
  | bar =>
    rw [readChar] at read
    split at read
    · cases read
      exact .completes _ _ rfl fun _ other => by cases other
    · cases read
  | ended =>
    rw [readChar] at read
    split at read
    · cases read
      exact .reaches rfl rfl (by simp [Place.reach])
    · cases read

/-- Where a line completes nothing, a command in backquotes is open if one was. -/
theorem inside_of_read (read : read inside place text = some reading)
    (nothing : reading.completed = []) : reading.inside = inside := by
  induction text generalizing inside place reading with
  | nil => cases read; rfl
  | cons character text inductionHypothesis =>
    obtain ⟨first, later, readFirst, readLater, rfl⟩ := exists_of_read_cons read
    obtain ⟨before, after⟩ := List.append_eq_nil_iff.mp nothing
    cases progress_of_readChar readFirst with
    | completes part more completed _ => rw [before] at completed; cases completed
    | reaches _ still _ => exact (inductionHypothesis readLater after).trans still

/-- The first part of two readings is what the first one completes first, or else that of the other. -/
theorem first?_andThen :
    (first.andThen later).first? = first.completed.head?.or later.first? := by
  simp [Reading.first?, Reading.andThen, List.append_assoc, List.head?_append]

/-- The first word of a line has no more characters than the line holds, and quotes cost some. -/
theorem length_lt_of_first? (read : read inside place text = some reading)
    (first : reading.first? = some (.word word)) :
    word.toList.length < place.reach + text.length := by
  induction text generalizing inside place reading with
  | nil =>
    cases read
    cases place with
    | apart => cases first
    | two => cases first; decide
    | word hadQuotes text =>
      have finished : Part.ofWord hadQuotes text = .word word := Option.some.inj first
      simp [Part.eq_of_ofWord finished, Place.reach]
    | quoted mark text => cases first
    | bar => cases first
    | ended => cases first
  | cons character text inductionHypothesis =>
    obtain ⟨next, later, readNext, readLater, rfl⟩ := exists_of_read_cons read
    rw [first?_andThen] at first
    cases progress_of_readChar readNext with
    | completes part more completed begun =>
      rw [completed] at first
      have := begun word (Option.some.inj first)
      omega
    | reaches nothing _ further =>
      rw [nothing] at first
      have := inductionHypothesis readLater first
      have := Bool.toNat_le (place.takes character)
      rw [List.length_cons]
      omega

/-- If the first word of a line is as long as the line allows, the word takes the next character. -/
theorem takes_of_first? (read : read inside place (character :: text) = some reading)
    (first : reading.first? = some (.word word))
    (long : place.reach + text.length ≤ word.toList.length) : place.takes character = true := by
  obtain ⟨next, later, readNext, readLater, rfl⟩ := exists_of_read_cons read
  rw [first?_andThen] at first
  cases progress_of_readChar readNext with
  | completes part more completed begun =>
    rw [completed] at first
    have short := begun word (Option.some.inj first)
    omega
  | reaches nothing _ further =>
    rw [nothing] at first
    have short := length_lt_of_first? readLater first
    cases taken : place.takes character with
    | true => rfl
    | false => rw [taken, Bool.toNat_false] at further; omega

/-- If a word and what follows it are read as one word, this stands there as it is. -/
theorem all_of_first? {more : List Char} (read : read inside (.behind text) more = some reading)
    (started : text ≠ []) (first : reading.first? = some (.word (String.ofList (text ++ more)))) :
    more.all (fun character => !isSpecial character) = true := by
  induction more generalizing text reading with
  | nil => rfl
  | cons character more inductionHypothesis =>
    -- The word is as long as the line, so no character of the line is lost to it.
    have plain : isSpecial character = false := by
      have taken := takes_of_first? read first (by simp [Place.reach_behind]; omega)
      rwa [Place.takes_behind, Bool.not_eq_true'] at taken
    obtain ⟨next, later, readNext, readLater, rfl⟩ := exists_of_read_cons read
    rw [readChar_behind plain started, Option.some.injEq] at readNext
    subst readNext
    rw [first?_andThen] at first
    have others := inductionHypothesis readLater (by simp) (by simpa using first)
    simp [plain, others]

/-- A text that is read as a word that is this text is a bare word. -/
theorem isBareWord_of_first? (read : read inside .apart text = some reading)
    (first : reading.first? = some (.word (String.ofList text))) : isBareWord text = true := by
  cases text with
  | nil => rfl
  | cons character text =>
    have taken := takes_of_first? read first (by simp [Place.reach]; omega)
    obtain ⟨plain, start⟩ := Bool.and_eq_true_iff.mp taken
    rw [Bool.not_eq_true'] at plain start
    obtain ⟨next, later, readNext, readLater, rfl⟩ := exists_of_read_cons read
    rw [readChar_apart plain start, Option.some.injEq] at readNext
    subst readNext
    rw [first?_andThen] at first
    have others := all_of_first? readLater (by simp) first
    simp [isBareWord, plain, start, others]

/-- The end of a command in backquotes completes what the end of the line would. -/
theorem first?_of_backquote {before : Reading}
    (untouched : before.completed = [] → before.inside = true)
    (read : read before.inside before.place ('`' :: text) = some later)
    (first : (before.andThen later).first? = some (.word word)) :
    before.first? = some (.word word) := by
  obtain ⟨completed, inside, place⟩ := before
  rw [first?_andThen] at first
  cases completed with
  | cons part more => exact first
  | nil =>
    obtain rfl : inside = true := untouched rfl
    obtain ⟨next, rest, readNext, -, rfl⟩ := exists_of_read_cons read
    rw [first?_andThen] at first
    cases place with
    | apart => cases readNext; cases first
    | two => cases readNext; exact first
    | word hadQuotes text => cases readNext; exact first
    | quoted mark text =>
      have special : isSpecialBetween true mark '`' = true := by simp [isSpecialBetween]
      simp only [readChar, if_pos special] at readNext
      cases readNext
    | bar => cases readNext
    | ended => cases readNext

/-- The first part of a line that may end is what its reading starts with. -/
theorem first?_of_finish? {ending : List Part} (ends : reading.place.finish? = some ending) :
    reading.first? = (reading.completed ++ ending).head? := by
  rw [Reading.first?, ends, Option.getD_some]

/-- A bare word at the end of a line is read whole. -/
theorem parts?_append_of_isBareWord {front back : String} {before : List Part}
    (readFront : read false .apart front.toList = some ⟨before, false, .apart⟩)
    (bare : isBareWord back.toList = true) (nonempty : back.toList ≠ []) :
    parts? (front ++ back) = some (before ++ [.ofWord false back.toList]) := by
  refine parts?_eq_some_iff.mpr
    ⟨before, .behind back.toList, _, ?_, Place.finish?_behind back.toList, rfl⟩
  rw [String.toList_append, read_append_of_read readFront (read_of_isBareWord bare nonempty)]
  simp [Reading.andThen]

/-- A text at the end of a line that is read as a word that is this text is a bare word. -/
theorem isBareWord_of_parts?_append {front back : String} {before : List Part}
    (readFront : read false .apart front.toList = some ⟨before, false, .apart⟩)
    (whole : parts? (front ++ back) = some (before ++ [.word back])) :
    isBareWord back.toList = true := by
  obtain ⟨completed, place, ending, readLine, ends, same⟩ := parts?_eq_some_iff.mp whole
  rw [String.toList_append] at readLine
  obtain ⟨later, readBack, both⟩ := exists_of_read_append_of_read readFront readLine
  obtain ⟨rfl, -, rfl⟩ := Reading.mk.inj both
  rw [List.append_assoc, List.append_cancel_left_eq] at same
  refine isBareWord_of_first? readBack ?_
  rw [first?_of_finish? ends, ← same, String.ofList_toList]
  rfl

end First

section OnHost

variable {matching : String → List String} {inside : Bool} {place : Place} {character : Char}
  {text : List Char} {first reading : Reading}

/-- Whether a part of a line is a pattern. -/
def Part.isPattern : Part → Bool
  | .pattern _ => true
  | _ => false

/-- Whether a shell is in a pattern. -/
def Place.isPattern : Place → Bool
  | .word hadQuotes text => !hadQuotes && Shell.isPattern text
  | _ => false

/-- Whether a pattern was read. -/
def Reading.hasPattern (reading : Reading) : Bool :=
  reading.completed.any Part.isPattern || reading.place.isPattern

/-- A finished word is a pattern if a shell was in one. -/
theorem Part.isPattern_ofWord (hadQuotes : Bool) (text : List Char) :
    (Part.ofWord hadQuotes text).isPattern = (Place.word hadQuotes text).isPattern := by
  unfold ofWord
  split
  · next pattern => exact pattern.symm
  · next plain => simpa [Part.isPattern, Place.isPattern] using plain

/-- A character that is no pattern mark makes no pattern of a word. -/
theorem hasPattern_of_readInWord {hadQuotes : Bool} (plain : isPatternMark character = false)
    (before : (Place.word hadQuotes text).isPattern = false)
    (read : readInWord inside hadQuotes text character = some first) :
    first.hasPattern = false := by
  have finished : (Part.ofWord hadQuotes text).isPattern = false := by
    rw [Part.isPattern_ofWord, before]
  have sign : Part.backquote.isPattern = false := rfl
  unfold readInWord at read
  split_ifs at read <;> cases read
  · simp [Reading.hasPattern, finished, Place.isPattern]
  · rfl
  · simp [Reading.hasPattern, finished, Place.isPattern]
  · simp [Reading.hasPattern, finished, sign, Place.isPattern]
  · simpa [Reading.hasPattern, Place.isPattern, Shell.isPattern, plain] using before

/-- A character that is no pattern mark makes no pattern. -/
theorem hasPattern_of_readChar (plain : isPatternMark character = false)
    (before : place.isPattern = false) (read : readChar inside place character = some first) :
    first.hasPattern = false := by
  cases place with
  | apart =>
    rw [readChar, readApart] at read
    split_ifs at read <;> cases read <;>
      simp [Reading.hasPattern, Part.isPattern, Place.isPattern, Shell.isPattern, plain]
  | two =>
    rw [readChar] at read
    split at read
    · cases read
      rfl
    · exact hasPattern_of_readInWord plain rfl read
  | word hadQuotes text => exact hasPattern_of_readInWord plain before read
  | quoted mark text =>
    rw [readChar] at read
    split_ifs at read <;> cases read <;> rfl
  | bar =>
    rw [readChar] at read
    split at read <;> cases read
    rfl
  | ended =>
    rw [readChar] at read
    split at read <;> cases read
    rfl

/-- A line without pattern marks has no pattern. -/
theorem hasPattern_of_read (plain : isPattern text = false) (before : place.isPattern = false)
    (read : read inside place text = some reading) : reading.hasPattern = false := by
  induction text generalizing inside place reading with
  | nil =>
    cases read
    simpa [Reading.hasPattern] using before
  | cons character text inductionHypothesis =>
    obtain ⟨here, others⟩ := Bool.or_eq_false_iff.mp plain
    obtain ⟨first, later, readFirst, readLater, rfl⟩ := exists_of_read_cons read
    obtain ⟨completed, behind⟩ :=
      Bool.or_eq_false_iff.mp (hasPattern_of_readChar here before readFirst)
    obtain ⟨completedLater, atEnd⟩ :=
      Bool.or_eq_false_iff.mp (inductionHypothesis others behind readLater)
    simp [Reading.hasPattern, Reading.andThen, List.any_append, completed, completedLater, atEnd]

/-- The end of a line completes a pattern only where a shell was in one. -/
theorem Place.any_isPattern_of_finish? {ending : List Part} (ends : place.finish? = some ending)
    (before : place.isPattern = false) : ending.any Part.isPattern = false := by
  cases place with
  | apart => cases ends; rfl
  | two => cases ends; rfl
  | word hadQuotes text => cases ends; simp [Part.isPattern_ofWord, before]
  | quoted mark text => cases ends
  | bar => cases ends
  | ended => cases ends; rfl

/-- What is no pattern is the same on every host. -/
theorem flatMap_expand_of_plain {parts : List Part} (plain : parts.any Part.isPattern = false) :
    parts.flatMap (Part.expand matching) = parts := by
  induction parts with
  | nil => rfl
  | cons part parts inductionHypothesis =>
    obtain ⟨here, others⟩ := Bool.or_eq_false_iff.mp plain
    rw [List.flatMap_cons, inductionHypothesis others]
    cases part with
    | pattern text => cases here
    | _ => rfl

/-- A line without pattern marks is read the same on every host. -/
theorem partsOn?_of_plain {line : String} (plain : isPattern line.toList = false) :
    partsOn? matching line = parts? line := by
  unfold partsOn?
  cases whole : parts? line with
  | none => rfl
  | some parts =>
    obtain ⟨completed, place, ending, readLine, ends, rfl⟩ := parts?_eq_some_iff.mp whole
    obtain ⟨before, behind⟩ := Bool.or_eq_false_iff.mp (hasPattern_of_read plain rfl readLine)
    have noPattern : (completed ++ ending).any Part.isPattern = false := by
      rw [List.any_append, before, Place.any_isPattern_of_finish? ends behind]
      rfl
    rw [Option.map_some, flatMap_expand_of_plain noPattern]

/-- A text that is no pattern means itself. -/
theorem meant_of_plain {text : String} (plain : isPattern text.toList = false) :
    meant matching text = [text] := by
  simp [meant, plain]

/-- A word without quotes is read as the paths that it means. -/
theorem Part.expand_ofWord (matching : String → List String) (text : String) :
    (Part.ofWord false text.toList).expand matching = (meant matching text).map .word := by
  cases pattern : Shell.isPattern text.toList with
  | true => simp [ofWord, pattern, expand]
  | false => simp [ofWord, pattern, expand, meant_of_plain pattern]

/-- A text means itself and nothing else exactly if it is no pattern or nothing else fits it. -/
theorem meant_eq_singleton_iff {text : String} :
    meant matching text = [text] ↔
      (isPattern text.toList = true → matching text = [] ∨ matching text = [text]) := by
  unfold meant
  cases isPattern text.toList with
  | false => simp
  | true => cases matching text with
    | nil => simp
    | cons path paths => simp

/-- A bracket that is never closed stands for itself where nothing fits it. -/
example : partsOn? (fun _ => []) "rpm -i /srv/a[b" =
    some [.word "rpm", .word "-i", .word "/srv/a[b"] := by
  decide

end OnHost

end FleetPlan.Shell
