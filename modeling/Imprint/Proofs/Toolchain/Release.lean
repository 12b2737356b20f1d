import Mathlib.Logic.Function.Iterate
import Imprint.Proofs.Text.Spacing
import Imprint.Toolchain.Release

/-!
# Toolchain — its release, in normal form

A release is the words of an answer but the last, joined; and joined words can be told apart again.
So a release is single-spaced (`singleSpaced_release`), its words are those of the answer without the
last (`words_release`), and it depends on the answer's words alone, whatever blanks stand between
them.  Taking the release of a release drops one word more (`words_iterate_release`).
-/

namespace Imprint.Toolchain

theorem isWord_of_mem_dropLast {answer : Text} : ∀ w ∈ answer.words.dropLast, Text.IsWord w :=
  fun _ hw => Text.mem_words (List.dropLast_subset _ hw)

/-- A release is single-spaced, whatever the answer was. -/
theorem singleSpaced_release (answer : Text) : (release answer).SingleSpaced :=
  Text.singleSpaced_joined isWord_of_mem_dropLast

/-- The words of a release are those of the answer, but for the last. -/
theorem words_release (answer : Text) : (release answer).words = answer.words.dropLast :=
  Text.words_joined isWord_of_mem_dropLast

/-- Each release of a release is one word shorter. -/
theorem words_iterate_release : ∀ (n : Nat) (answer : Text),
    (release^[n] answer).words = answer.words.take (answer.words.length - n)
  | 0,     answer => by rw [Function.iterate_zero_apply, Nat.sub_zero, List.take_length]
  | n + 1, answer => by
      have hlen : answer.words.length - 1 - n = answer.words.length - (n + 1) := by omega
      rw [Function.iterate_succ_apply, words_iterate_release n, words_release, List.length_dropLast,
        List.dropLast_eq_take, List.take_take, hlen, Nat.min_eq_left (by omega)]

/-- **The normal form of a release.**  Its words are those of the answer without the last, so none
where the answer has one word or none; its only blanks are spaces, none of them at an end and no two
of them side by side.  Two answers have the same release exactly if they have the same words but for
the last, whatever blanks stand between them.  And taking the release again and again drops one word
after the other from the end. -/
theorem release_normal_form (answer : Text) :
    (release answer).words = answer.words.dropLast ∧
      (release answer).SingleSpaced ∧
      (∀ other : Text,
        release other = release answer ↔ other.words.dropLast = answer.words.dropLast) ∧
      ∀ n, (release^[n] answer).words = answer.words.take (answer.words.length - n) := by
  refine ⟨words_release answer, singleSpaced_release answer, fun other => ⟨fun h => ?_, fun h => ?_⟩,
    fun n => words_iterate_release n answer⟩
  · rw [← words_release, h, words_release]
  · rw [release, h, release]

/-- Blanks of many kinds stand between the words of this answer, around them and at its ends. -/
example : release "\u2003go\u0085\u00a0 version\u3000\t1.21\u2028x\r\n".toList =
    "go version 1.21".toList := by decide

end Imprint.Toolchain
