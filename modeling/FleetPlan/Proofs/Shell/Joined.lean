import Mathlib.Logic.Function.Basic
import FleetPlan.Proofs.Shell.Words

/-!
# Joined texts are read back

Joining loses nothing: the words that are read from joined texts are these texts,
whatever they are made of, and so two lists that are joined to one line are the same
list (`join_lossless`). This holds in the middle of a command too, as long as what
follows does not go on with the last word.
-/

namespace FleetPlan.Shell

/-- What follows a word without going on with it: nothing, or a blank and whatever is behind it. -/
def StartsApart (text : String) : Prop :=
  text = "" ∨ ∃ blank rest, isBlank blank = true ∧ text.toList = blank :: rest

variable {line after : String} {first second : List Token}

/-- What stands in front of a text that starts apart is read as it is read alone, and so is that
text. -/
theorem tokens?_append_of_startsApart (read : tokens? line = some first) (apart : StartsApart after)
    (readAfter : tokens? after = some second) :
    tokens? (line ++ after) = some (first ++ second) := by
  rcases apart with rfl | ⟨blank, rest, ends, starts⟩
  · cases readAfter
    rw [String.append_empty, read]
    simp [begun]
  · -- A blank with no word in front of it is passed over.
    have readRest : tokensFrom none none rest = some second := by
      rw [tokens?, starts, tokensFrom_cons_of_isBlank ends] at readAfter
      simpa [begun] using readAfter
    rw [tokens?, String.toList_append, starts, tokensFrom_append_blank ends read, readRest]
    rfl

/-- Joined texts are read as these texts. -/
theorem words?_join (texts : List String) : words? (join texts) = some texts :=
  words?_eq_some_iff.mpr (tokens?_join texts)

/-- Joined texts are read as these texts between the words before and after them. -/
theorem words?_join_between {before after : String} {front back : List String}
    (readBefore : words? before = some front) (apart : StartsApart after)
    (readAfter : words? after = some back) (texts : List String) :
    words? (before ++ " " ++ join texts ++ after) = some (front ++ texts ++ back) := by
  have readJoined := words?_append_join readBefore texts
  rw [words?_eq_some_iff] at readJoined readAfter ⊢
  rw [List.map_append]
  exact tokens?_append_of_startsApart readJoined apart readAfter

/-- Joined texts are read as these texts, alone and between other words, so that no two lists of
texts are joined to one line. -/
theorem join_lossless :
    (∀ texts, words? (join texts) = some texts) ∧
      (∀ before after front back, words? before = some front → StartsApart after →
        words? after = some back → ∀ texts,
          words? (before ++ " " ++ join texts ++ after) = some (front ++ texts ++ back)) ∧
      Function.Injective join := by
  refine ⟨words?_join, ?_, ?_⟩
  · intro before after front back readBefore apart readAfter texts
    exact words?_join_between readBefore apart readAfter texts
  · intro texts others same
    have readOthers := words?_join others
    rw [← same, words?_join texts] at readOthers
    exact Option.some.inj readOthers

/-- Texts that are empty, hold quotes or end lines stand between words in both kinds of quotes. -/
theorem join_lossless_quotes :
    let texts := ["it's", "", "two\nlines", "''", "plain"]
    words? "printf '%s ' \"a b\"" = some ["printf", "%s ", "a b"] ∧
      StartsApart "\t'> c'" ∧ words? "\t'> c'" = some ["> c"] ∧
      words? ("printf '%s ' \"a b\"" ++ " " ++ join texts ++ "\t'> c'") =
        some (["printf", "%s ", "a b"] ++ texts ++ ["> c"]) ∧
      ∀ others, join others = join texts → others = texts := by
  intro texts
  have readBefore : words? "printf '%s ' \"a b\"" = some ["printf", "%s ", "a b"] := by decide
  have apart : StartsApart "\t'> c'" := Or.inr ⟨'\t', "'> c'".toList, by decide, by decide⟩
  have readAfter : words? "\t'> c'" = some ["> c"] := by decide
  obtain ⟨-, between, distinct⟩ := join_lossless
  exact ⟨readBefore, apart, readAfter, between _ _ _ _ readBefore apart readAfter texts,
    fun others same => distinct same⟩

/-- Quotes that stay open and characters that are not safe are refused outside of quotes. -/
example : words? "a 'b" = none ∧ words? "a;b" = none ∧ words? "a > b" = none := by decide

end FleetPlan.Shell
