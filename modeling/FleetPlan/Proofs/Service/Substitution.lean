import FleetPlan.Service.InitSystem
import Mathlib.Data.List.Infix

/-!
# Rendering and simultaneous substitution

A template is letters and places (`ActionTemplate.pieces`): it is what they spell, and
letters in a row never spell a placeholder (`ActionTemplate.pieces_eq_iff`). To
substitute is to put the name and the action into the places, whatever is in them
(`ActionTemplate.substituted`).

Rendering fills the places of the name first, and then looks for the action in the
text that came of it. So it substitutes exactly if this text has no place for the
action beside those of the template (`ActionTemplate.render_eq_substituted_iff`); such
a place can come in with the name, and arise where the name meets the template. The
commands of init systems are substituted unless the name of the service has such a
place (`InitSystem.render_template_eq_substituted_iff`).
-/

namespace FleetPlan

namespace ActionTemplate

/-- A part of a template: a letter that stands for itself, or a place to be filled. -/
inductive Piece where
  | letter (character : Char)
  | place (placeholder : Placeholder)
  deriving DecidableEq, Repr

/-- A part of a template as it is written. -/
def Piece.text : Piece → List Char
  | .letter character => [character]
  | .place placeholder => placeholder.text.toList

/-- The text that is made of pieces. -/
def spelled (pieces : List Piece) : List Char := pieces.flatMap Piece.text

/-- The characters of a text as letters. -/
def letters (text : List Char) : List Piece := text.map Piece.letter

/-- Whether letters in a row, and no place, spell a placeholder. -/
def HasSpelled (placeholder : Placeholder) (pieces : List Piece) : Prop :=
  letters placeholder.text.toList <:+: pieces

instance (placeholder : Placeholder) (pieces : List Piece) :
    Decidable (HasSpelled placeholder pieces) :=
  inferInstanceAs (Decidable (letters placeholder.text.toList <:+: pieces))

section Spelling

variable {placeholder : Placeholder} {piece : Piece} {pieces : List Piece}

@[simp] theorem spelled_letter (character : Char) (pieces : List Piece) :
    spelled (.letter character :: pieces) = character :: spelled pieces := rfl

@[simp] theorem spelled_place (placeholder : Placeholder) (pieces : List Piece) :
    spelled (.place placeholder :: pieces) = placeholder.text.toList ++ spelled pieces := rfl

@[simp] theorem spelled_append (front rest : List Piece) :
    spelled (front ++ rest) = spelled front ++ spelled rest :=
  List.flatMap_append

@[simp] theorem spelled_letters (text : List Char) : spelled (letters text) = text := by
  simp [spelled, letters, List.flatMap_map, Piece.text]

/-- A text without an opening brace that starts what is spelled is spelled by letters. -/
theorem letters_prefix_of_prefix {text : List Char} (plain : '{' ∉ text)
    (start : text <+: spelled pieces) : letters text <+: pieces := by
  induction text generalizing pieces with
  | nil => exact List.nil_prefix
  | cons first text inductionHypothesis =>
    obtain ⟨other, further⟩ := List.ne_and_not_mem_of_not_mem_cons plain
    cases pieces with
    | nil => simp [spelled] at start
    | cons piece pieces =>
      cases piece with
      | letter character =>
        rw [spelled_letter, List.cons_prefix_cons] at start
        exact List.cons_prefix_cons.mpr ⟨congrArg _ start.1, inductionHypothesis further start.2⟩
      | place placeholder =>
        rw [spelled_place, Placeholder.toList_text] at start
        exact absurd (List.cons_prefix_cons.mp start).1.symm other

/-- Where a placeholder starts what is spelled, it is its place or spelled by letters. -/
theorem prefix_spelled_cons_iff :
    placeholder.text.toList <+: spelled (piece :: pieces) ↔
      piece = .place placeholder ∨ letters placeholder.text.toList <+: piece :: pieces := by
  constructor
  · intro start
    cases piece with
    | letter character =>
      right
      rw [Placeholder.toList_text, spelled_letter, List.cons_prefix_cons] at start
      rw [Placeholder.toList_text]
      exact List.cons_prefix_cons.mpr
        ⟨congrArg _ start.1, letters_prefix_of_prefix placeholder.not_mem_body start.2⟩
    | place other => exact .inl (congrArg Piece.place (Placeholder.eq_of_prefix start).symm)
  · rintro (rfl | ⟨rest, whole⟩)
    · exact List.prefix_append _ _
    · exact ⟨spelled rest, by rw [← whole, spelled_append, spelled_letters]⟩

/-- Nothing spells no placeholder. -/
theorem not_hasSpelled_nil : ¬ HasSpelled placeholder [] := by
  cases placeholder <;> decide

/-- A placeholder is spelled at the start of pieces or further on. -/
theorem hasSpelled_cons_iff : HasSpelled placeholder (piece :: pieces) ↔
    letters placeholder.text.toList <+: piece :: pieces ∨ HasSpelled placeholder pieces :=
  List.infix_cons_iff

/-- A placeholder that is spelled by letters is not spelled from a place on. -/
@[simp] theorem hasSpelled_place {other : Placeholder} :
    HasSpelled placeholder (.place other :: pieces) ↔ HasSpelled placeholder pieces := by
  rw [hasSpelled_cons_iff, Placeholder.toList_text, or_iff_right]
  intro start
  cases (List.cons_prefix_cons.mp start).1

end Spelling

/-! ## The pieces of a text -/

/-- The placeholder that a text starts with. -/
def placeholderAt? (text : List Char) : Option Placeholder :=
  [Placeholder.name, .action].find? fun placeholder => placeholder.text.toList.isPrefixOf text

/-- A text does not start with more than one placeholder. -/
theorem placeholderAt?_eq_some_iff {text : List Char} {placeholder : Placeholder} :
    placeholderAt? text = some placeholder ↔ placeholder.text.toList <+: text := by
  constructor
  · intro found
    have start := List.find?_some found
    exact List.isPrefixOf_iff_prefix.mp start
  · rintro ⟨rest, rfl⟩
    cases placeholder <;> simp [placeholderAt?, Placeholder.text]

/-- The pieces of a text, after passing over characters that belong to a place. -/
def piecesFrom : Nat → List Char → List Piece
  | _, [] => []
  | pending + 1, _ :: text => piecesFrom pending text
  | 0, first :: text =>
    match placeholderAt? (first :: text) with
    | some placeholder => .place placeholder :: piecesFrom placeholder.body.length text
    | none => .letter first :: piecesFrom 0 text

/-- The letters and the places of a text. -/
def pieces (text : List Char) : List Piece := piecesFrom 0 text

/-- What a scan finds is what is spelled behind the characters that it passes over. -/
theorem spelled_piecesFrom (pending : Nat) (text : List Char) :
    spelled (piecesFrom pending text) = text.drop pending := by
  induction text generalizing pending with
  | nil => cases pending <;> rfl
  | cons first text inductionHypothesis =>
    cases pending with
    | succ pending => exact inductionHypothesis pending
    | zero =>
      rw [piecesFrom]
      split
      · next placeholder found =>
        have start := placeholderAt?_eq_some_iff.mp found
        rw [Placeholder.toList_text] at start
        obtain ⟨rfl, rest, rfl⟩ := List.cons_prefix_cons.mp start
        simp [inductionHypothesis, Placeholder.toList_text]
      · simp [inductionHypothesis]

/-- The pieces of a text spell it. -/
theorem spelled_pieces (text : List Char) : spelled (pieces text) = text :=
  spelled_piecesFrom 0 text

/-- A scan leaves no placeholder to be spelled by letters. -/
theorem not_hasSpelled_piecesFrom (placeholder : Placeholder) (pending : Nat) (text : List Char) :
    ¬ HasSpelled placeholder (piecesFrom pending text) := by
  induction text generalizing pending with
  | nil => cases pending <;> exact not_hasSpelled_nil
  | cons first text inductionHypothesis =>
    cases pending with
    | succ pending => exact inductionHypothesis pending
    | zero =>
      rw [piecesFrom]
      split
      · rw [hasSpelled_place]
        exact inductionHypothesis _
      · next missing =>
        rw [hasSpelled_cons_iff]
        refine not_or_intro (fun start => ?_) (inductionHypothesis 0)
        have here := prefix_spelled_cons_iff.mpr (.inr start)
        rw [spelled_letter, spelled_piecesFrom, List.drop_zero, ← placeholderAt?_eq_some_iff,
          missing] at here
        cases here

/-- Characters that belong to a place are passed over. -/
theorem piecesFrom_length_append (passed rest : List Char) :
    piecesFrom passed.length (passed ++ rest) = pieces rest := by
  induction passed with
  | nil => rfl
  | cons first passed inductionHypothesis => exact inductionHypothesis

/-- Pieces of which letters spell no placeholder are read from what they spell. -/
theorem pieces_spelled {read : List Piece} (free : ∀ placeholder, ¬ HasSpelled placeholder read) :
    pieces (spelled read) = read := by
  induction read with
  | nil => rfl
  | cons piece read inductionHypothesis =>
    have further : pieces (spelled read) = read := inductionHypothesis fun placeholder later =>
      free placeholder (hasSpelled_cons_iff.mpr (.inr later))
    cases piece with
    | letter character =>
      have none : placeholderAt? (character :: spelled read) = none := by
        rw [Option.eq_none_iff_forall_ne_some]
        intro placeholder found
        have start := placeholderAt?_eq_some_iff.mp found
        rw [← spelled_letter] at start
        rcases prefix_spelled_cons_iff.mp start with same | spelling
        · cases same
        · exact free placeholder (hasSpelled_cons_iff.mpr (.inl spelling))
      rw [spelled_letter, pieces, piecesFrom, none]
      exact congrArg _ further
    | place placeholder =>
      have found : placeholderAt? (placeholder.text.toList ++ spelled read) = some placeholder :=
        placeholderAt?_eq_some_iff.mpr (List.prefix_append _ _)
      rw [Placeholder.toList_text, List.cons_append] at found
      rw [spelled_place, Placeholder.toList_text, List.cons_append, pieces, piecesFrom, found]
      simp only [piecesFrom_length_append, further]

/-- The pieces of a text are those that spell it without spelling a placeholder by letters. -/
theorem pieces_eq_iff {text : List Char} {read : List Piece} :
    pieces text = read ↔ spelled read = text ∧ ∀ placeholder, ¬ HasSpelled placeholder read := by
  constructor
  · rintro rfl
    exact ⟨spelled_pieces text, fun placeholder => not_hasSpelled_piecesFrom placeholder 0 text⟩
  · rintro ⟨rfl, free⟩
    exact pieces_spelled free

/-! ## Filling places -/

/-- A piece after the places of a placeholder are filled with letters. -/
def Piece.filled (placeholder : Placeholder) (value : List Char) : Piece → List Piece
  | .letter character => [.letter character]
  | .place other => if other = placeholder then letters value else [.place other]

/-- Pieces after the places of a placeholder are filled with letters. -/
def filled (placeholder : Placeholder) (value : List Char) (pieces : List Piece) : List Piece :=
  pieces.flatMap (Piece.filled placeholder value)

section Filling

variable {placeholder other : Placeholder} {value : List Char}

@[simp] theorem filled_nil : filled placeholder value [] = [] := rfl

@[simp] theorem filled_append (front rest : List Piece) : filled placeholder value (front ++ rest) =
    filled placeholder value front ++ filled placeholder value rest :=
  List.flatMap_append

@[simp] theorem filled_letters (text : List Char) :
    filled placeholder value (letters text) = letters text := by
  simp [filled, letters, List.flatMap_map, Piece.filled, ← List.map_eq_flatMap]

@[simp] theorem filled_letter (character : Char) (rest : List Piece) :
    filled placeholder value (.letter character :: rest) =
      .letter character :: filled placeholder value rest := rfl

@[simp] theorem filled_place (rest : List Piece) :
    filled placeholder value (.place placeholder :: rest) =
      letters value ++ filled placeholder value rest := by
  simp [filled, Piece.filled]

theorem filled_place_of_ne (different : other ≠ placeholder) (rest : List Piece) :
    filled placeholder value (.place other :: rest) =
      .place other :: filled placeholder value rest := by
  simp [filled, Piece.filled, different]

/-- A placeholder at the start of a text is filled. -/
theorem fill_place (rest : List Char) :
    fill placeholder value (placeholder.text.toList ++ rest) =
      value ++ fill placeholder value rest := by
  have nonempty : placeholder.text.toList ≠ [] := by simp [Placeholder.toList_text]
  exact Text.replaceAll_append nonempty value rest

/-- A letter that no placeholder starts with is kept. -/
theorem fill_letter {first : Char} {rest : List Char}
    (apart : ¬ placeholder.text.toList <+: first :: rest) :
    fill placeholder value (first :: rest) = first :: fill placeholder value rest :=
  Text.replaceAll_cons apart value

/-- The other placeholder is kept. -/
theorem fill_place_of_ne (different : other ≠ placeholder) (rest : List Char) :
    fill placeholder value (other.text.toList ++ rest) =
      other.text.toList ++ fill placeholder value rest := by
  have apart : ¬ placeholder.text.toList <+: '{' :: (other.body ++ rest) := by
    rw [← List.cons_append, ← Placeholder.toList_text]
    exact fun start => different (Placeholder.eq_of_prefix start).symm
  have passed : fill placeholder value (other.body ++ rest) =
      other.body ++ fill placeholder value rest := by
    unfold fill Text.replaceAll
    rw [Placeholder.toList_text placeholder]
    exact Text.replaceFrom_append_of_not_mem other.not_mem_body value rest
  rw [Placeholder.toList_text other, List.cons_append, fill_letter apart, passed, List.cons_append]

end Filling

/-! ## Filling what is spelled -/

section Spelled

variable (placeholder : Placeholder)

/-- How a scan for a placeholder goes through pieces: it meets the letters of the placeholder in a
row, another letter, or a place. -/
theorem scan_induction {motive : List Piece → Prop} (nil : motive [])
    (spelling : ∀ rest, motive rest → motive (letters placeholder.text.toList ++ rest))
    (letter : ∀ character rest,
      ¬ letters placeholder.text.toList <+: .letter character :: rest →
        motive rest → motive (.letter character :: rest))
    (place : ∀ other rest, motive rest → motive (.place other :: rest)) :
    ∀ pieces, motive pieces := by
  intro pieces
  induction size : pieces.length using Nat.strong_induction_on generalizing pieces with
  | _ size inductionHypothesis =>
    subst size
    by_cases start : letters placeholder.text.toList <+: pieces
    · obtain ⟨rest, rfl⟩ := start
      have shorter : rest.length < (letters placeholder.text.toList ++ rest).length := by
        simp only [letters, Placeholder.toList_text, List.length_append, List.length_map,
          List.length_cons]
        omega
      exact spelling rest (inductionHypothesis _ shorter rest rfl)
    · cases pieces with
      | nil => exact nil
      | cons piece rest =>
        have further : motive rest := inductionHypothesis _ (Nat.lt_succ_self _) rest rfl
        cases piece with
        | letter character => exact letter character rest start further
        | place other => exact place other rest further

variable {placeholder} {value : List Char}

/-- A letter that starts no placeholder in a row of letters is kept. -/
theorem fill_spelled_letter {character : Char} {rest : List Piece}
    (apart : ¬ letters placeholder.text.toList <+: .letter character :: rest) :
    fill placeholder value (character :: spelled rest) =
      character :: fill placeholder value (spelled rest) := by
  refine fill_letter fun start => ?_
  change placeholder.text.toList <+: spelled (.letter character :: rest) at start
  rcases prefix_spelled_cons_iff.mp start with same | spelling
  · cases same
  · exact apart spelling

/-- A scan fills at least the places. So it gives no longer a text than filling just them where the
value is no longer than the placeholder, and no shorter a text where it is no shorter. -/
theorem length_fill_spelled (placeholder : Placeholder) (value : List Char) (pieces : List Piece) :
    (value.length ≤ placeholder.text.toList.length →
        (fill placeholder value (spelled pieces)).length ≤
          (spelled (filled placeholder value pieces)).length) ∧
      (placeholder.text.toList.length ≤ value.length →
        (spelled (filled placeholder value pieces)).length ≤
          (fill placeholder value (spelled pieces)).length) := by
  induction pieces using scan_induction placeholder with
  | nil => exact ⟨fun _ => Nat.zero_le _, fun _ => Nat.zero_le _⟩
  | spelling rest inductionHypothesis =>
    obtain ⟨shorter, longer⟩ := inductionHypothesis
    simp only [spelled_append, spelled_letters, filled_append, filled_letters, fill_place,
      List.length_append]
    omega
  | letter character rest apart inductionHypothesis =>
    simpa [fill_spelled_letter apart] using inductionHypothesis
  | place other rest inductionHypothesis =>
    by_cases same : other = placeholder
    · subst same
      simpa [fill_place] using inductionHypothesis
    · simpa [fill_place_of_ne same, filled_place_of_ne same] using inductionHypothesis

/-- To fill what is spelled is to fill the places, unless letters spell a placeholder that is filled
with something else. -/
theorem fill_spelled_iff {pieces : List Piece} :
    fill placeholder value (spelled pieces) = spelled (filled placeholder value pieces) ↔
      value = placeholder.text.toList ∨ ¬ HasSpelled placeholder pieces := by
  induction pieces using scan_induction placeholder with
  | nil => exact iff_of_true rfl (.inr not_hasSpelled_nil)
  | spelling rest inductionHypothesis =>
    have spelling : HasSpelled placeholder (letters placeholder.text.toList ++ rest) :=
      (List.prefix_append _ _).isInfix
    rw [or_iff_left (not_not_intro spelling)]
    simp only [spelled_append, spelled_letters, filled_append, filled_letters, fill_place]
    constructor
    · intro same
      -- Both texts go on equally long, so the value is as long as the placeholder it stands for.
      obtain ⟨shorter, longer⟩ := length_fill_spelled placeholder value rest
      have sameLength := congrArg List.length same
      rw [List.length_append, List.length_append] at sameLength
      exact List.append_inj_left same (by omega)
    · intro same
      rw [inductionHypothesis.mpr (.inl same), same]
  | letter character rest apart inductionHypothesis =>
    rw [hasSpelled_cons_iff, or_iff_right apart, ← inductionHypothesis]
    simp [fill_spelled_letter apart]
  | place other rest inductionHypothesis =>
    rw [hasSpelled_place, ← inductionHypothesis]
    by_cases same : other = placeholder
    · subst same
      simp [fill_place]
    · simp [fill_place_of_ne same, filled_place_of_ne same]

end Spelled

/-! ## Rendering -/

/-- What stands for a piece when the places have a name and an action. -/
def Piece.value (name action : List Char) : Piece → List Char
  | .letter character => [character]
  | .place .name => name
  | .place .action => action

/-- A template with the name and the action in its places, and nothing else changed. -/
def substituted (template : ActionTemplate) (name action : String) : String :=
  String.ofList ((pieces template.text.toList).flatMap (Piece.value name.toList action.toList))

/-- Places that are filled one after the other have the name and the action in them. -/
theorem spelled_filled_filled (name action : List Char) (pieces : List Piece) :
    spelled (filled .action action (filled .name name pieces)) =
      pieces.flatMap (Piece.value name action) := by
  induction pieces with
  | nil => rfl
  | cons piece pieces inductionHypothesis =>
    rw [List.flatMap_cons, ← inductionHypothesis]
    rcases piece with character | (_ | _)
    · rfl
    · simp [Piece.value]
    · simp [Piece.value, filled_place_of_ne]

/-- The pieces of a template after its places for the name are filled. -/
def named (template : ActionTemplate) (name : String) : List Piece :=
  filled .name name.toList (pieces template.text.toList)

/-- To substitute is to fill the places of the template, and only those. -/
theorem substituted_eq (template : ActionTemplate) (name action : String) :
    template.substituted name action =
      String.ofList (spelled (filled .action action.toList (template.named name))) := by
  rw [substituted, named, spelled_filled_filled]

/-- To render is to look for the action in what is spelled once the name is filled in. -/
theorem render_eq (template : ActionTemplate) (name action : String) :
    template.render name action =
      String.ofList (fill .action action.toList (spelled (template.named name))) := by
  have free : ¬ HasSpelled .name (pieces template.text.toList) :=
    not_hasSpelled_piecesFrom .name 0 template.text.toList
  rw [render, named, ← fill_spelled_iff.mpr (.inr free), spelled_pieces]

/-- Rendering substitutes the name and the action exactly if letters of the template and of the name
spell no place for the action, beside the places that the template has, or if the action is what
such a place looks like. -/
theorem render_eq_substituted_iff (template : ActionTemplate) (name action : String) :
    template.render name action = template.substituted name action ↔
      action = Placeholder.action.text ∨ ¬ HasSpelled .action (template.named name) := by
  rw [render_eq, substituted_eq, String.ofList_inj, fill_spelled_iff, String.toList_inj]

/-- A place for the action can arise where the name meets the template. -/
example : (⟨"{act{name}ion} {action}"⟩ : ActionTemplate).render "" "stop" = "stop stop" := by decide

/-- A name with a place for the action in it is not kept as it is: the action is put into it. -/
theorem render_ne_substituted :
    ofText "systemctl {action} {name}" = .ok InitSystem.systemd.template ∧
      InitSystem.systemd.template.substituted "{action}" "restart" = "systemctl restart {action}" ∧
      InitSystem.systemd.template.render "{action}" "restart" = "systemctl restart restart" ∧
      InitSystem.systemd.template.render "{action}" "restart" ≠
        InitSystem.systemd.template.substituted "{action}" "restart" := by
  decide

section InitSystems

variable {placeholder : Placeholder}

/-- Letters spell the placeholders that occur in their text. -/
theorem hasSpelled_letters_iff {text : String} :
    HasSpelled placeholder (letters text.toList) ↔ hasPlace text placeholder = true := by
  rw [hasPlace, Text.occurs_iff]
  constructor
  · rintro ⟨front, rest, whole⟩
    have spelling : spelled (front ++ letters placeholder.text.toList ++ rest) = text.toList := by
      rw [whole, spelled_letters]
    simp only [spelled_append, spelled_letters] at spelling
    exact ⟨spelled front, spelled rest, spelling.symm⟩
  · rintro ⟨front, rest, whole⟩
    exact ⟨letters front, letters rest, by simp [whole, letters]⟩

/-- A text without an opening brace starts no placeholder. -/
theorem hasSpelled_letters_append {text : List Char} (plain : '{' ∉ text) {rest : List Piece} :
    HasSpelled placeholder (letters text ++ rest) ↔ HasSpelled placeholder rest := by
  induction text with
  | nil => rfl
  | cons first text inductionHypothesis =>
    obtain ⟨other, further⟩ := List.ne_and_not_mem_of_not_mem_cons plain
    change HasSpelled placeholder (.letter first :: (letters text ++ rest)) ↔ _
    rw [hasSpelled_cons_iff, inductionHypothesis further, Placeholder.toList_text, or_iff_right]
    intro start
    exact other (Piece.letter.inj (List.cons_prefix_cons.mp start).1)

/-- A piece that is not in a placeholder ends what can spell it. -/
theorem hasSpelled_append_cons_iff {piece : Piece} {front rest : List Piece}
    (apart : piece ∉ letters placeholder.text.toList) :
    HasSpelled placeholder (front ++ piece :: rest) ↔
      HasSpelled placeholder front ∨ HasSpelled placeholder rest := by
  have ends : ∀ front : List Piece, letters placeholder.text.toList <+: front ++ piece :: rest ↔
      letters placeholder.text.toList <+: front := fun front =>
    ⟨fun start => List.prefix_of_prefix_length_le start (List.prefix_append _ _)
      (Text.length_le_of_prefix apart start), fun start => start.trans (List.prefix_append _ _)⟩
  induction front with
  | nil =>
    rw [List.nil_append, hasSpelled_cons_iff, ← List.nil_append (piece :: rest), ends,
      or_iff_right not_hasSpelled_nil, or_iff_right]
    intro start
    exact not_hasSpelled_nil start.isInfix
  | cons first front inductionHypothesis =>
    have start := ends (first :: front)
    rw [List.cons_append] at start ⊢
    rw [hasSpelled_cons_iff, hasSpelled_cons_iff, start, or_assoc]
    exact or_congr_right inductionHypothesis

end InitSystems

end ActionTemplate

namespace InitSystem

open ActionTemplate

/-- The template of an init system is a text and the two places, with a blank between them. -/
theorem pieces_template (init : InitSystem) : ∃ text, '{' ∉ text ∧
    (pieces init.template.text.toList =
        letters text ++ [.place .action, .letter ' ', .place .name] ∨
      pieces init.template.text.toList =
        letters text ++ [.place .name, .letter ' ', .place .action]) := by
  cases init
  · exact ⟨"systemctl ".toList, by decide, .inl (by decide)⟩
  · exact ⟨"/etc/init.d/".toList, by decide, .inr (by decide)⟩
  · exact ⟨"rc-service ".toList, by decide, .inr (by decide)⟩
  · exact ⟨"initctl ".toList, by decide, .inl (by decide)⟩
  · exact ⟨"/etc/rc.d/".toList, by decide, .inr (by decide)⟩

/-- The command of an init system has the name and the action in the places of its template exactly
if the name has no place for the action, or the action is what such a place looks like. -/
theorem render_template_eq_substituted_iff (init : InitSystem) (name action : String) :
    init.template.render name action = init.template.substituted name action ↔
      action = Placeholder.action.text ∨ hasPlace name .action = false := by
  have spelled : HasSpelled .action (init.template.named name) ↔ hasPlace name .action = true := by
    have blank : Piece.letter ' ' ∉ letters Placeholder.action.text.toList := by decide
    rw [named, ← hasSpelled_letters_iff]
    obtain ⟨text, plain, shape | shape⟩ := init.pieces_template
    · have spacing : HasSpelled .action (.letter ' ' :: letters name.toList) ↔
          HasSpelled .action (letters name.toList) :=
        hasSpelled_letters_append (by decide : '{' ∉ [' '])
      simpa [shape, filled_place_of_ne, hasSpelled_letters_append plain] using spacing
    · simp [shape, filled_place_of_ne, hasSpelled_letters_append plain,
        hasSpelled_append_cons_iff blank, not_hasSpelled_nil]
  rw [render_eq, substituted_eq, String.ofList_inj, fill_spelled_iff, String.toList_inj, spelled,
    Bool.not_eq_true]

end InitSystem

end FleetPlan
