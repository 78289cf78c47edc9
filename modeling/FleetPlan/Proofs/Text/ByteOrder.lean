import Mathlib.Data.List.Basic
import Mathlib.Tactic.SplitIfs

/-!
# The order of texts is the order of their bytes

Texts are compared by their code points. Written in UTF-8 they stand in the same order
when their bytes are compared (`Text.bytes_lt_iff`): the first byte of a character grows
with the number of bytes behind it and then with the leading digits of the code point,
and the bytes behind it are the other digits, to the base 64.
-/

namespace FleetPlan.Text

/-- The bytes of a text in UTF-8. -/
def bytes (text : String) : List UInt8 := text.toUTF8.data.toList

/-- The bytes of a text are those of its characters, one after the other. -/
theorem bytes_eq_flatMap (text : String) :
    bytes text = text.toList.flatMap String.utf8EncodeChar := by
  rw [bytes, String.toUTF8, ← String.utf8Encode_toList, List.utf8Encode,
    List.toList_data_toByteArray]

variable {first second : Nat} {rest others : List UInt8}

/-- Bytes that are given by numbers are compared as these numbers. -/
theorem ofNat_cons_lt_iff (firstFits : first < 256) (secondFits : second < 256) :
    UInt8.ofNat first :: rest < UInt8.ofNat second :: others ↔
      first < second ∨ first = second ∧ rest < others := by
  have lower : UInt8.ofNat first < UInt8.ofNat second ↔ first < second := by
    rw [UInt8.lt_iff_toNat_lt, UInt8.toNat_ofNat_of_lt' firstFits,
      UInt8.toNat_ofNat_of_lt' secondFits]
  have equal : UInt8.ofNat first = UInt8.ofNat second ↔ first = second := by
    rw [← UInt8.toNat_inj, UInt8.toNat_ofNat_of_lt' firstFits,
      UInt8.toNat_ofNat_of_lt' secondFits]
  rw [List.cons_lt_cons_iff, lower, equal]

/-- What is left of a number without its last digits to the base 64. -/
def leading : Nat → Nat → Nat
  | 0, number => number
  | count + 1, number => leading count (number / 64)

/-- The last digits of a number to the base 64, as bytes behind the first one of a character. -/
def continuation : Nat → Nat → List UInt8
  | 0, _ => []
  | count + 1, number => continuation count (number / 64) ++ [UInt8.ofNat (number % 64 + 128)]

/-- A lower number has no higher leading digits. -/
theorem leading_le_leading {count : Nat} (atMost : first ≤ second) :
    leading count first ≤ leading count second := by
  induction count generalizing first second with
  | zero => exact atMost
  | succ count inductionHypothesis => exact inductionHypothesis (Nat.div_le_div_right atMost)

/-- Of two numbers that differ in their last digits only, the lower one has the lower digits. -/
theorem continuation_append_lt {count : Nat} (below : first < second)
    (same : leading count first = leading count second) :
    continuation count first ++ rest < continuation count second ++ others := by
  induction count generalizing first second rest others with
  | zero => exact absurd same (Nat.ne_of_lt below)
  | succ count inductionHypothesis =>
    simp only [continuation, List.append_assoc, List.singleton_append]
    rcases Nat.lt_or_ge (first / 64) (second / 64) with earlier | notEarlier
    · exact inductionHypothesis earlier same
    · -- Only the last digit differs.
      have alike : first / 64 = second / 64 := by omega
      rw [alike]
      refine List.append_left_lt ((ofNat_cons_lt_iff ?_ ?_).mpr (Or.inl ?_)) <;> omega

/-- Code points are below 0x110000. -/
theorem val_lt (character : Char) : character.val.toNat < 0x110000 := by
  have valid := character.valid
  unfold UInt32.isValidChar Nat.isValidChar at valid
  omega

/-- How many bytes follow the first byte of a code point, and how the first byte is marked for it. -/
def layout (number : Nat) : Nat × Nat :=
  if number ≤ 0x7f then (0, 0)
  else if number ≤ 0x7ff then (1, 0xc0)
  else if number ≤ 0xffff then (2, 0xe0)
  else (3, 0xf0)

/-- The first byte of a code point, with its leading digits. -/
def lead (number : Nat) : Nat := leading (layout number).1 number + (layout number).2

/-- The first byte of a code point is a byte. -/
theorem lead_lt (bound : first < 0x110000) : lead first < 256 := by
  unfold lead layout
  split_ifs <;> simp only [leading] <;> omega

/-- Of two code points that are written with different numbers of bytes, the lower one has the lower
first byte. -/
theorem lead_lt_lead (below : first < second) (different : layout first ≠ layout second) :
    lead first < lead second := by
  unfold lead
  unfold layout at different ⊢
  split_ifs at different ⊢ <;> simp [leading] at different ⊢ <;> omega

/-- A character is written as its first byte and the digits that are not in it. -/
theorem utf8EncodeChar_eq (character : Char) :
    String.utf8EncodeChar character =
      UInt8.ofNat (lead character.val.toNat) ::
        continuation (layout character.val.toNat).1 character.val.toNat := by
  have bound := val_lt character
  unfold String.utf8EncodeChar lead layout
  generalize character.val.toNat = number at bound ⊢
  dsimp only
  split_ifs
  · simp [continuation, leading]
  · have fits : number / 64 % 32 = number / 64 := Nat.mod_eq_of_lt (by omega)
    simp [continuation, leading, fits]
  · have fits : number / 4096 % 16 = number / 4096 := Nat.mod_eq_of_lt (by omega)
    simp [continuation, leading, fits, Nat.div_div_eq_div_mul]
  · have fits : number / 262144 % 8 = number / 262144 := Nat.mod_eq_of_lt (by omega)
    simp [continuation, leading, fits, Nat.div_div_eq_div_mul]

/-- The bytes of the lower of two characters come first, whatever follows them. -/
theorem utf8EncodeChar_append_lt {low high : Char} (below : low < high) :
    String.utf8EncodeChar low ++ rest < String.utf8EncodeChar high ++ others := by
  have numbers : low.val.toNat < high.val.toNat := UInt32.lt_iff_toNat_lt.mp below
  rw [utf8EncodeChar_eq, utf8EncodeChar_eq, List.cons_append, List.cons_append,
    ofNat_cons_lt_iff (lead_lt (val_lt low)) (lead_lt (val_lt high))]
  by_cases same : layout low.val.toNat = layout high.val.toNat
  · -- The leading digits decide, and where they are the same the other digits do.
    unfold lead
    rw [same]
    rcases Nat.lt_or_eq_of_le (leading_le_leading (Nat.le_of_lt numbers)) with lower | equal
    · exact Or.inl (Nat.add_lt_add_right lower _)
    · exact Or.inr ⟨by rw [equal], continuation_append_lt numbers equal⟩
  · exact Or.inl (lead_lt_lead numbers same)

/-- Characters in order have bytes in order. -/
theorem flatMap_utf8EncodeChar_lt {left right : List Char} (below : left < right) :
    left.flatMap String.utf8EncodeChar < right.flatMap String.utf8EncodeChar := by
  induction left generalizing right with
  | nil =>
    cases right with
    | nil => exact absurd below (List.lt_irrefl [])
    | cons character right =>
      rw [List.flatMap_cons, utf8EncodeChar_eq]
      exact List.nil_lt_cons _ _
  | cons character left inductionHypothesis =>
    cases right with
    | nil => exact absurd below (List.not_lt_nil _)
    | cons other right =>
      rw [List.flatMap_cons, List.flatMap_cons]
      rcases List.cons_lt_cons_iff.mp below with lower | ⟨rfl, later⟩
      · exact utf8EncodeChar_append_lt lower
      · exact List.append_left_lt (inductionHypothesis later)

/-- Texts are in the order of their bytes. -/
theorem bytes_lt_iff {left right : String} : bytes left < bytes right ↔ left < right := by
  have forward : ∀ {first second : String}, first < second → bytes first < bytes second := by
    intro first second below
    rw [bytes_eq_flatMap, bytes_eq_flatMap]
    exact flatMap_utf8EncodeChar_lt (String.lt_iff.mp below)
  refine ⟨fun below => ?_, forward⟩
  refine String.not_le.mp fun atMost => ?_
  by_cases same : right = left
  · subst same
    exact List.lt_irrefl _ below
  · exact List.lt_asymm below (forward (Std.lt_of_le_of_ne atMost same))

end FleetPlan.Text
