/-!
# Finding, cutting and replacing pieces of text

Texts are lists of characters here, so that every function is a recursion on its
text. `dropStart?` and `dropEnd?` remove a known piece from an end, `cutFirst?`
and `cutLast?` split around the leftmost and the rightmost occurrence of a
separator, and `replaceAll` replaces the occurrences that a scan from the left
meets. The lemmas say that cutting loses nothing and finds the occurrence that it
should (`cutFirst?_eq_some_iff`, `cutLast?_eq_some_iff`), that replacing puts in
what it should, and that it keeps pieces apart from the replaced one.
-/

namespace FleetPlan.Text

/-- What follows `piece` at the start of a text, if the text starts with it. -/
def dropStart? : (piece text : List Char) → Option (List Char)
  | [], text => some text
  | _ :: _, [] => none
  | wanted :: piece, found :: text =>
    if wanted = found then dropStart? piece text else none

/-- `dropStart?` answers exactly when the text is the piece and a rest. -/
theorem dropStart?_eq_some_iff {piece text rest : List Char} :
    dropStart? piece text = some rest ↔ text = piece ++ rest := by
  induction piece generalizing text with
  | nil => simp [dropStart?, eq_comm]
  | cons wanted piece hypothesis =>
    cases text with
    | nil => simp [dropStart?]
    | cons found text =>
      by_cases same : wanted = found
      · simp [dropStart?, same, hypothesis]
      · simp [dropStart?, same, Ne.symm same]

/-- A text starts with the piece that was put in front of it. -/
@[simp] theorem dropStart?_append (piece rest : List Char) :
    dropStart? piece (piece ++ rest) = some rest :=
  dropStart?_eq_some_iff.mpr rfl

/-- What precedes `piece` at the end of a text, if the text ends with it. -/
def dropEnd? (piece text : List Char) : Option (List Char) :=
  (dropStart? piece.reverse text.reverse).map List.reverse

/-- `dropEnd?` answers exactly when the text is a front and the piece. -/
theorem dropEnd?_eq_some_iff {piece text front : List Char} :
    dropEnd? piece text = some front ↔ text = front ++ piece := by
  simp only [dropEnd?, Option.map_eq_some_iff, dropStart?_eq_some_iff]
  constructor
  · rintro ⟨rest, shape, rfl⟩
    simpa using congrArg List.reverse shape
  · rintro rfl
    exact ⟨front.reverse, by simp, by simp⟩

/-- The text before and after the leftmost occurrence of `piece`. -/
def cutFirst? (piece : List Char) : (text : List Char) → Option (List Char × List Char)
  | [] => if piece = [] then some ([], []) else none
  | first :: text =>
    match dropStart? piece (first :: text) with
    | some rest => some ([], rest)
    | none => (cutFirst? piece text).map fun cut => (first :: cut.1, cut.2)

/-- The text before and after the rightmost occurrence of `piece`. -/
def cutLast? (piece : List Char) : (text : List Char) → Option (List Char × List Char)
  | [] => if piece = [] then some ([], []) else none
  | first :: text =>
    match cutLast? piece text with
    | some cut => some (first :: cut.1, cut.2)
    | none => (dropStart? piece (first :: text)).map fun rest => ([], rest)

/-- Cutting at the leftmost occurrence loses nothing. -/
theorem append_of_cutFirst? {piece text front rest : List Char}
    (cut : cutFirst? piece text = some (front, rest)) : text = front ++ piece ++ rest := by
  induction text generalizing front with
  | nil =>
    simp only [cutFirst?] at cut
    split at cut <;> simp_all
  | cons first text hypothesis =>
    simp only [cutFirst?] at cut
    split at cut
    · next found =>
      obtain ⟨rfl, rfl⟩ := Prod.mk.inj (Option.some.inj cut)
      simpa using dropStart?_eq_some_iff.mp found
    · obtain ⟨⟨innerFront, innerRest⟩, inner, shape⟩ := Option.map_eq_some_iff.mp cut
      obtain ⟨rfl, rfl⟩ := Prod.mk.inj shape
      simp [hypothesis inner]

/-- Cutting at the rightmost occurrence loses nothing. -/
theorem append_of_cutLast? {piece text front rest : List Char}
    (cut : cutLast? piece text = some (front, rest)) : text = front ++ piece ++ rest := by
  induction text generalizing front with
  | nil =>
    simp only [cutLast?] at cut
    split at cut <;> simp_all
  | cons first text hypothesis =>
    simp only [cutLast?] at cut
    split at cut
    · next inner found =>
      obtain ⟨rfl, rfl⟩ := Prod.mk.inj (Option.some.inj cut)
      simp [hypothesis found]
    · obtain ⟨found, start, shape⟩ := Option.map_eq_some_iff.mp cut
      obtain ⟨rfl, rfl⟩ := Prod.mk.inj shape
      simpa using dropStart?_eq_some_iff.mp start

/-- There is no place to cut exactly where the text does not have the piece. -/
theorem cutLast?_eq_none_iff {piece text : List Char} :
    cutLast? piece text = none ↔ ∀ front rest, text ≠ front ++ piece ++ rest := by
  induction text with
  | nil => cases piece <;> simp [cutLast?]
  | cons first text hypothesis =>
    simp only [cutLast?]
    split
    · next cut found =>
      have whole := append_of_cutLast? found
      simp only [reduceCtorEq, false_iff]
      exact fun apart => apart (first :: cut.1) cut.2 (by simp [whole])
    · next apart =>
      rw [Option.map_eq_none_iff]
      constructor
      · intro notHere front rest whole
        cases front with
        | nil => simp [whole] at notHere
        | cons other front =>
          obtain ⟨-, whole⟩ := List.cons.inj whole
          exact hypothesis.mp apart front rest whole
      · intro apart
        cases start : dropStart? piece (first :: text) with
        | none => rfl
        | some rest => exact absurd (dropStart?_eq_some_iff.mp start) (apart [] rest)

/-- No occurrence starts behind the one at which `cutLast?` cuts. -/
theorem length_le_of_cutLast? {piece text front rest otherFront otherRest : List Char}
    (cut : cutLast? piece text = some (front, rest))
    (whole : text = otherFront ++ piece ++ otherRest) : otherFront.length ≤ front.length := by
  induction text generalizing front otherFront with
  | nil => simp_all
  | cons first text hypothesis =>
    cases otherFront with
    | nil => exact Nat.zero_le _
    | cons other otherFront =>
      obtain ⟨-, whole⟩ := List.cons.inj whole
      simp only [cutLast?] at cut
      split at cut
      · next found =>
        obtain ⟨rfl, rfl⟩ := Prod.mk.inj (Option.some.inj cut)
        exact Nat.succ_le_succ (hypothesis found whole)
      · next apart => exact absurd whole (cutLast?_eq_none_iff.mp apart otherFront otherRest)

/-- Two cuts of a text at the same place are the same cut. -/
theorem eq_of_length_eq {piece front rest otherFront otherRest : List Char}
    (whole : front ++ piece ++ rest = otherFront ++ piece ++ otherRest)
    (sameLength : front.length = otherFront.length) : front = otherFront ∧ rest = otherRest := by
  rw [List.append_assoc, List.append_assoc] at whole
  obtain ⟨sameFront, sameTail⟩ := List.append_inj whole sameLength
  exact ⟨sameFront, List.append_cancel_left sameTail⟩

/-- `cutLast?` cuts a text around the occurrence behind which no other one starts. -/
theorem cutLast?_eq_some_iff {piece text front rest : List Char} :
    cutLast? piece text = some (front, rest) ↔ text = front ++ piece ++ rest ∧
      ∀ otherFront otherRest, text = otherFront ++ piece ++ otherRest →
        otherFront.length ≤ front.length := by
  constructor
  · intro cut
    exact ⟨append_of_cutLast? cut, fun _ _ => length_le_of_cutLast? cut⟩
  · rintro ⟨whole, last⟩
    cases cut : cutLast? piece text with
    | none => exact absurd whole (cutLast?_eq_none_iff.mp cut front rest)
    | some found =>
      obtain ⟨otherFront, otherRest⟩ := found
      have otherWhole := append_of_cutLast? cut
      have sameLength : otherFront.length = front.length :=
        Nat.le_antisymm (last otherFront otherRest otherWhole) (length_le_of_cutLast? cut whole)
      obtain ⟨rfl, rfl⟩ := eq_of_length_eq (otherWhole.symm.trans whole) sameLength
      rfl

/-- Whether `piece` occurs somewhere in a text. -/
def occurs (piece text : List Char) : Bool :=
  (cutFirst? piece text).isSome

/-- Whether a text has a piece is decided by the pieces around it. -/
theorem occurs_iff {piece text : List Char} :
    occurs piece text = true ↔ ∃ front rest, text = front ++ piece ++ rest := by
  constructor
  · intro found
    obtain ⟨⟨front, rest⟩, cut⟩ := Option.isSome_iff_exists.mp found
    exact ⟨front, rest, append_of_cutFirst? cut⟩
  · rintro ⟨front, rest, rfl⟩
    induction front with
    | nil =>
      cases whole : [] ++ piece ++ rest with
      | nil =>
        have empty : piece = [] := by simp_all
        simp [occurs, cutFirst?, empty]
      | cons first text =>
        have start : dropStart? piece (first :: text) = some rest := by
          rw [← whole]; simp
        simp [occurs, cutFirst?, start]
    | cons first front hypothesis =>
      simp only [occurs, List.cons_append, cutFirst?] at hypothesis ⊢
      split
      · rfl
      · simpa using hypothesis

/-- The same for a piece and a text that are strings. -/
theorem occurs_toList_iff {piece text : String} :
    occurs piece.toList text.toList = true ↔ ∃ front rest, text = front ++ piece ++ rest := by
  rw [occurs_iff]
  constructor
  · rintro ⟨front, rest, whole⟩
    exact ⟨String.ofList front, String.ofList rest, String.toList_injective (by simpa using whole)⟩
  · rintro ⟨front, rest, rfl⟩
    exact ⟨front.toList, rest.toList, by simp⟩

/-- No occurrence starts before the one at which `cutFirst?` cuts. -/
theorem length_le_of_cutFirst? {piece text front rest otherFront otherRest : List Char}
    (cut : cutFirst? piece text = some (front, rest))
    (whole : text = otherFront ++ piece ++ otherRest) : front.length ≤ otherFront.length := by
  induction text generalizing front otherFront with
  | nil =>
    simp only [cutFirst?] at cut
    split at cut <;> simp_all
  | cons first text hypothesis =>
    simp only [cutFirst?] at cut
    split at cut
    · obtain ⟨rfl, -⟩ := Prod.mk.inj (Option.some.inj cut)
      exact Nat.zero_le _
    · next notHere =>
      obtain ⟨⟨innerFront, innerRest⟩, inner, shape⟩ := Option.map_eq_some_iff.mp cut
      obtain ⟨rfl, rfl⟩ := Prod.mk.inj shape
      cases otherFront with
      | nil => simp [whole] at notHere
      | cons other otherFront =>
        obtain ⟨-, whole⟩ := List.cons.inj whole
        exact Nat.succ_le_succ (hypothesis inner whole)

/-- `cutFirst?` cuts a text around the occurrence before which no other one starts. -/
theorem cutFirst?_eq_some_iff {piece text front rest : List Char} :
    cutFirst? piece text = some (front, rest) ↔ text = front ++ piece ++ rest ∧
      ∀ otherFront otherRest, text = otherFront ++ piece ++ otherRest →
        front.length ≤ otherFront.length := by
  constructor
  · intro cut
    exact ⟨append_of_cutFirst? cut, fun _ _ => length_le_of_cutFirst? cut⟩
  · rintro ⟨whole, least⟩
    have found : occurs piece text = true := occurs_iff.mpr ⟨front, rest, whole⟩
    obtain ⟨⟨otherFront, otherRest⟩, cut⟩ := Option.isSome_iff_exists.mp found
    have otherWhole := append_of_cutFirst? cut
    have sameLength : otherFront.length = front.length :=
      Nat.le_antisymm (length_le_of_cutFirst? cut whole) (least otherFront otherRest otherWhole)
    obtain ⟨rfl, rfl⟩ := eq_of_length_eq (otherWhole.symm.trans whole) sameLength
    exact cut

/-- A text is cut at the first occurrence of a character, before which it does not have the
character. -/
theorem cutFirst?_singleton_eq_some_iff {mark : Char} {text front rest : List Char} :
    cutFirst? [mark] text = some (front, rest) ↔ text = front ++ [mark] ++ rest ∧ mark ∉ front := by
  rw [cutFirst?_eq_some_iff]
  refine and_congr_right fun whole => ⟨fun least inside => ?_, fun apart before after other => ?_⟩
  · obtain ⟨before, after, rfl⟩ := List.append_of_mem inside
    have within := least before (after ++ [mark] ++ rest) (by simp [whole])
    rw [List.length_append, List.length_cons] at within
    omega
  · rw [whole, List.append_assoc, List.append_assoc] at other
    rcases List.append_eq_append_iff.mp other with ⟨between, rfl, -⟩ | ⟨between, rfl, tail⟩
    · simp
    · cases between with
      | nil => simp
      | cons first between =>
        obtain ⟨rfl, -⟩ := List.cons.inj tail
        exact absurd (List.mem_append_right before (List.mem_cons_self ..)) apart

/-- A text that has a piece has it also behind another text. -/
theorem occurs_append {piece text : List Char} (front : List Char)
    (found : occurs piece text = true) : occurs piece (front ++ text) = true := by
  obtain ⟨before, rest, rfl⟩ := occurs_iff.mp found
  exact occurs_iff.mpr ⟨front ++ before, rest, by simp⟩

/-- A text that was put in front can be found. -/
theorem occurs_append_self (piece rest : List Char) : occurs piece (piece ++ rest) = true :=
  occurs_iff.mpr ⟨[], rest, rfl⟩

/-- `replaceFrom piece replacement pending text` replaces the occurrences of `piece` after
passing over `pending` characters that belong to an occurrence already replaced. -/
def replaceFrom (piece replacement : List Char) : Nat → List Char → List Char
  | _, [] => []
  | pending + 1, _ :: text => replaceFrom piece replacement pending text
  | 0, first :: text =>
    if piece.isPrefixOf (first :: text) then
      replacement ++ replaceFrom piece replacement (piece.length - 1) text
    else
      first :: replaceFrom piece replacement 0 text

/-- Replace the occurrences of a nonempty `piece` that a scan from the left meets; text that was
put in is not looked at again. -/
def replaceAll (piece replacement text : List Char) : List Char :=
  replaceFrom piece replacement 0 text

/-- Characters that belong to an occurrence already replaced are passed over. -/
theorem replaceFrom_length_append (piece replacement passed rest : List Char) :
    replaceFrom piece replacement passed.length (passed ++ rest) =
      replaceFrom piece replacement 0 rest := by
  induction passed with
  | nil => rfl
  | cons first passed inductionHypothesis => exact inductionHypothesis

/-- A piece at the start of a text is replaced. -/
theorem replaceAll_append {piece : List Char} (nonempty : piece ≠ [])
    (replacement rest : List Char) : replaceAll piece replacement (piece ++ rest) =
      replacement ++ replaceAll piece replacement rest := by
  obtain ⟨first, tail, rfl⟩ := List.exists_cons_of_ne_nil nonempty
  have here : (first :: tail).isPrefixOf (first :: (tail ++ rest)) = true := by simp
  rw [replaceAll, List.cons_append, replaceFrom, if_pos here, List.length_cons, Nat.add_sub_cancel,
    replaceFrom_length_append, replaceAll]

/-- The first character is kept where the piece does not start a text. -/
theorem replaceAll_cons {piece : List Char} {first : Char} {text : List Char}
    (apart : ¬ piece <+: first :: text) (replacement : List Char) :
    replaceAll piece replacement (first :: text) =
      first :: replaceAll piece replacement text := by
  rw [replaceAll, replaceFrom, if_neg (by simpa using apart), replaceAll]

/-- Replacing a piece puts in what replaces it. -/
theorem occurs_replaceAll {piece text : List Char} (replacement : List Char)
    (nonempty : piece ≠ []) (found : occurs piece text = true) :
    occurs replacement (replaceAll piece replacement text) = true := by
  obtain ⟨front, rest, rfl⟩ := occurs_iff.mp found
  unfold replaceAll
  induction front with
  | nil =>
    obtain ⟨first, tail, rfl⟩ := List.exists_cons_of_ne_nil nonempty
    simp only [List.nil_append, List.cons_append, replaceFrom]
    rw [if_pos (by simp)]
    exact occurs_append_self _ _
  | cons first front inductionHypothesis =>
    simp only [List.cons_append, replaceFrom]
    split
    · exact occurs_append_self _ _
    · exact occurs_append [first] (inductionHypothesis (occurs_iff.mpr ⟨front, rest, rfl⟩))

/-- A prefix without an element ends before that element. -/
theorem length_le_of_prefix {α : Type} {mark : α} {front rest piece : List α} (free : mark ∉ piece)
    (start : piece <+: front ++ mark :: rest) : piece.length ≤ front.length := by
  obtain ⟨tail, whole⟩ := start
  rcases List.append_eq_append_iff.mp whole with ⟨middle, rfl, -⟩ | ⟨middle, rfl, after⟩
  · simp
  · cases middle with
    | nil => simp
    | cons first middle =>
      obtain ⟨rfl, -⟩ := List.cons.inj after
      exact absurd (List.mem_append_right front (List.mem_cons_self ..)) free

section ReplaceApart

variable {mark : Char} {piece : List Char}

/-- A text without the first character of a piece is passed over. -/
theorem replaceFrom_append_of_not_mem {text : List Char} (free : mark ∉ text)
    (replacement rest : List Char) :
    replaceFrom (mark :: piece) replacement 0 (text ++ rest) =
      text ++ replaceFrom (mark :: piece) replacement 0 rest := by
  induction text with
  | nil => rfl
  | cons first text inductionHypothesis =>
    have other : mark ≠ first := fun same => free (same ▸ List.mem_cons_self ..)
    have restFree : mark ∉ text := fun inside => free (List.mem_cons_of_mem first inside)
    simp [replaceFrom, other, inductionHypothesis restFree]

/-- Replacing a piece keeps another one that starts with the same character, where neither has the
character again and the one is not the start of the other. -/
theorem occurs_replaceFrom_of_apart {kept : List Char} (once : mark ∉ piece)
    (keptOnce : mark ∉ kept)
    (apart : ∀ rest, ¬ (mark :: piece) <+: (mark :: kept) ++ rest) (replacement rest : List Char)
    {pending : Nat} {front : List Char} (within : pending ≤ front.length) :
    occurs (mark :: kept)
      (replaceFrom (mark :: piece) replacement pending (front ++ (mark :: kept ++ rest))) =
        true := by
  induction front generalizing pending with
  | nil =>
    obtain rfl : pending = 0 := Nat.le_zero.mp within
    have notHere : (mark :: piece).isPrefixOf (mark :: (kept ++ rest)) ≠ true :=
      fun here => apart rest (List.isPrefixOf_iff_prefix.mp here)
    have passed : replaceFrom (mark :: piece) replacement 0 ([] ++ (mark :: kept ++ rest)) =
        mark :: kept ++ replaceFrom (mark :: piece) replacement 0 rest := by
      rw [List.nil_append, List.cons_append, replaceFrom, if_neg notHere,
        replaceFrom_append_of_not_mem keptOnce, List.cons_append]
    rw [passed]
    exact occurs_append_self _ _
  | cons first front inductionHypothesis =>
    cases pending with
    | succ pending => exact inductionHypothesis (Nat.le_of_succ_le_succ within)
    | zero =>
      rw [List.cons_append, replaceFrom]
      split
      · next here =>
        have start := (List.cons_prefix_cons.mp (List.isPrefixOf_iff_prefix.mp here)).2
        have inFront : piece.length ≤ front.length := length_le_of_prefix once start
        exact occurs_append replacement (inductionHypothesis inFront)
      · exact occurs_append [first] (inductionHypothesis (Nat.zero_le _))

end ReplaceApart

/-- What is taken from a text ends where the characters of the wanted kind do. -/
theorem takeWhile_append_of_stop {wanted : Char → Bool} {front rest : List Char}
    (inside : ∀ character ∈ front, wanted character = true)
    (stop : ∀ character ∈ rest.head?, wanted character = false) :
    (front ++ rest).takeWhile wanted = front := by
  rw [List.takeWhile_append_of_pos inside]
  cases rest with
  | nil => simp
  | cons first rest => simp [stop first rfl]

/-- A text without its trailing occurrences of one character. -/
def trimEnd (unwanted : Char) (text : List Char) : List Char :=
  (text.reverse.dropWhile (· == unwanted)).reverse

/-- A text is what is left of it when one character is trimmed, and trailing occurrences of this
character. -/
theorem exists_eq_trimEnd_append (unwanted : Char) (text : List Char) :
    ∃ count, text = trimEnd unwanted text ++ List.replicate count unwanted := by
  let trailing := text.reverse.takeWhile (· == unwanted)
  have same : ∀ character ∈ trailing, character = unwanted := fun character member =>
    beq_iff_eq.mp (List.all_eq_true.mp List.all_takeWhile character member)
  refine ⟨trailing.length, List.reverse_inj.mp ?_⟩
  rw [trimEnd, List.reverse_append, List.reverse_reverse, List.reverse_replicate,
    ← List.eq_replicate_of_mem same, List.takeWhile_append_dropWhile]

/-- What is left of a trimmed text does not end in the unwanted character. -/
theorem getLast?_trimEnd (unwanted : Char) (text : List Char) :
    (trimEnd unwanted text).getLast? ≠ some unwanted := by
  intro last
  rw [trimEnd, List.getLast?_reverse] at last
  have other := List.head?_dropWhile_not (· == unwanted) text.reverse
  simp [last] at other

/-- Trailing occurrences of a character make no difference where it is trimmed. -/
theorem trimEnd_append_replicate (unwanted : Char) (text : List Char) (count : Nat) :
    trimEnd unwanted (text ++ List.replicate count unwanted) = trimEnd unwanted text := by
  simp [trimEnd]

/-- The pieces of a text between the occurrences of one character; never empty. -/
def splitAt (separator : Char) : List Char → List (List Char)
  | [] => [[]]
  | first :: text =>
    if first = separator then [] :: splitAt separator text
    else
      match splitAt separator text with
      | [] => [[first]]
      | piece :: pieces => (first :: piece) :: pieces

/-- There is always a piece. -/
theorem splitAt_ne_nil (separator : Char) (text : List Char) : splitAt separator text ≠ [] := by
  cases text with
  | nil => simp [splitAt]
  | cons first text =>
    simp only [splitAt]
    split
    · simp
    · split <;> simp

/-- The pieces of two texts with a separator between them are those of the one and of the other. -/
theorem splitAt_append (separator : Char) (front rest : List Char) :
    splitAt separator (front ++ separator :: rest) =
      splitAt separator front ++ splitAt separator rest := by
  induction front with
  | nil => simp [splitAt]
  | cons first front hypothesis =>
    simp only [List.cons_append, splitAt, hypothesis]
    split
    · rfl
    · cases pieces : splitAt separator front with
      | nil => exact absurd pieces (splitAt_ne_nil separator front)
      | cons piece pieces => rfl

/-- A text without the separator is one piece. -/
theorem splitAt_of_not_mem {separator : Char} {text : List Char} (apart : separator ∉ text) :
    splitAt separator text = [text] := by
  induction text with
  | nil => rfl
  | cons first text hypothesis =>
    obtain ⟨other, restApart⟩ := List.ne_and_not_mem_of_not_mem_cons apart
    rw [splitAt, if_neg (Ne.symm other), hypothesis restApart]

/-- Texts that each end in the separator are the pieces, and behind the last one is nothing. -/
theorem splitAt_flatMap {separator : Char} {lines : List (List Char)}
    (apart : ∀ line ∈ lines, separator ∉ line) :
    splitAt separator (lines.flatMap (· ++ [separator])) = lines ++ [[]] := by
  induction lines with
  | nil => rfl
  | cons line lines inductionHypothesis =>
    obtain ⟨here, further⟩ := List.forall_mem_cons.mp apart
    rw [List.flatMap_cons, List.append_assoc, List.singleton_append, splitAt_append,
      splitAt_of_not_mem here, inductionHypothesis further]
    rfl

/-- No piece has the separator. -/
theorem not_mem_of_mem_splitAt {separator : Char} {text piece : List Char}
    (member : piece ∈ splitAt separator text) : separator ∉ piece := by
  induction text generalizing piece with
  | nil => simp_all [splitAt]
  | cons first text inductionHypothesis =>
    rw [splitAt] at member
    split at member
    · rcases List.mem_cons.mp member with rfl | further
      · exact List.not_mem_nil
      · exact inductionHypothesis further
    · next other =>
      cases pieces : splitAt separator text with
      | nil => exact absurd pieces (splitAt_ne_nil separator text)
      | cons next following =>
        rw [pieces] at member inductionHypothesis
        rcases List.mem_cons.mp member with rfl | further
        · have inNext : separator ∉ next := inductionHypothesis (List.mem_cons_self ..)
          simp [Ne.symm other, inNext]
        · exact inductionHypothesis (List.mem_cons_of_mem next further)

end FleetPlan.Text
