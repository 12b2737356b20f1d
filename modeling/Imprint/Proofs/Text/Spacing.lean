import Imprint.Proofs.Text.Phrase
import Imprint.Text.Words

/-!
# Text — words with single spaces between them

The words of a text are not empty and hold no blanks (`mem_words`), and at a blank a text can be cut
without a word being lost or made (`words_append_cons`).  Words like these, joined, make a text that
is *single-spaced*: its only blanks are spaces, none of them at an end and no two of them side by side
(`singleSpaced_joined`).  Its words are those that were joined (`words_joined`).
-/

namespace Imprint.Text

/-! ### Words -/

/-- What is cut at some characters holds none of them. -/
theorem forall_mem_splitOnP (cut : Char → Bool) (t : Text) :
    ∀ w ∈ t.splitOnP cut, ∀ c ∈ w, cut c = false := by
  induction t with
  | nil => simp
  | cons c t ih =>
      rw [List.splitOnP_cons_eq_if_modifyHead]
      split
      case isTrue => simpa using ih
      case isFalse hc =>
        cases e : t.splitOnP cut with
        | nil => simp
        | cons w ws =>
            rw [e] at ih
            simp only [List.modifyHead_cons, List.forall_mem_cons] at ih ⊢
            exact ⟨⟨by simpa using hc, ih.1⟩, ih.2⟩

/-- A text that is not empty and holds no blanks. -/
def IsWord (w : Text) : Prop := w ≠ [] ∧ ∀ c ∈ w, isBlank c = false

theorem mem_words {t w : Text} (h : w ∈ t.words) : IsWord w := by
  rw [words, List.mem_filter] at h
  exact ⟨by simpa using h.2, forall_mem_splitOnP isBlank t w h.1⟩

theorem IsWord.not_mem {w : Text} (h : IsWord w) {c : Char} (hc : isBlank c = true) : c ∉ w :=
  fun hw => Bool.false_ne_true ((h.2 c hw).symm.trans hc)

@[simp] theorem words_nil : words [] = [] := by simp [words]

/-- **A blank ends a word**, and what follows begins one. -/
theorem words_append_cons {c : Char} (hc : isBlank c = true) (s t : Text) :
    words (s ++ c :: t) = words s ++ words t := by
  rw [words, List.splitOnP_append_cons s t hc, List.filter_append, ← words, ← words]

theorem IsWord.words_eq {w : Text} (h : IsWord w) : w.words = [w] := by
  rw [words, List.splitOnP_eq_singleton h.2]
  simp [h.1]

/-- Characters of ASCII that can be seen make a word. -/
theorem isWord_of_ascii {w : Text} (hw : w ≠ [])
    (hc : ∀ c ∈ w, 0x21 ≤ c.toNat ∧ c.toNat ≤ 0x7e) : IsWord w := by
  refine ⟨hw, fun c h => ?_⟩
  obtain ⟨hlow, hhigh⟩ := hc c h
  simp only [isBlank, Bool.or_eq_false_iff, Bool.and_eq_false_iff, decide_eq_false_iff_not,
    beq_eq_false_iff_ne]
  omega

/-! ### Joined words -/

@[simp] theorem joined_nil : joined [] = [] := rfl

@[simp] theorem joined_singleton (w : Text) : joined [w] = w := List.intercalate_singleton

theorem joined_cons_cons (w v : Text) (ws : List Text) :
    joined (w :: v :: ws) = w ++ ' ' :: joined (v :: ws) := by
  rw [joined, List.intercalate_cons_cons]
  simp [joined]

/-- The only blanks are spaces, none of them at an end and no two of them side by side. -/
structure SingleSpaced (t : Text) : Prop where
  eq_space : ∀ c ∈ t, isBlank c = true → c = ' '
  head     : t.head? ≠ some ' '
  last     : t.getLast? ≠ some ' '
  apart    : ¬ [' ', ' '] <:+: t

theorem IsWord.singleSpaced {w : Text} (h : IsWord w) : SingleSpaced w where
  eq_space _ hc hb := absurd hc (h.not_mem hb)
  head e           := h.not_mem rfl (List.mem_of_head? e)
  last e           := h.not_mem rfl (List.mem_of_getLast? e)
  apart            := not_infix_of_not_mem List.mem_cons_self (h.not_mem rfl)

/-- A word in front of a single-spaced text, with a space between them. -/
theorem SingleSpaced.cons {w t : Text} (hw : IsWord w) (ht : SingleSpaced t) (hn : t ≠ []) :
    SingleSpaced (w ++ ' ' :: t) where
  eq_space c hc hb := by
    rcases List.mem_append.1 hc with hc | hc
    · exact absurd hc (hw.not_mem hb)
    · rcases List.mem_cons.1 hc with rfl | hc
      · rfl
      · exact ht.eq_space c hc hb
  head e := by
    rw [List.head?_append_of_ne_nil w hw.1] at e
    exact hw.not_mem rfl (List.mem_of_head? e)
  last e := by
    rw [List.getLast?_append_of_ne_nil w (List.cons_ne_nil ' ' t),
      ← List.singleton_append, List.getLast?_append_of_ne_nil [' '] hn] at e
    exact ht.last e
  apart h := by
    -- two spaces side by side begin at the one in the middle or after it
    rw [infix_append_iff (mayBegin_eq_false (hw.not_mem rfl)), List.infix_cons_iff,
      List.cons_prefix_cons] at h
    rcases h with ⟨-, h⟩ | h
    · rcases t with _ | ⟨c, t⟩
      · exact hn rfl
      · exact ht.head (by rw [List.head?_cons, (List.cons_prefix_cons.1 h).1])
    · exact ht.apart h

theorem joined_ne_nil : ∀ {ws : List Text}, ws ≠ [] → (∀ w ∈ ws, IsWord w) → joined ws ≠ []
  | [],          h, _  => absurd rfl h
  | [w],         _, hw => by rw [joined_singleton]; exact (hw w List.mem_cons_self).1
  | _ :: _ :: _, _, _  => by rw [joined_cons_cons]; simp

/-- **Joined words are single-spaced.** -/
theorem singleSpaced_joined :
    ∀ {ws : List Text}, (∀ w ∈ ws, IsWord w) → SingleSpaced (joined ws)
  | [],          _ => ⟨by simp, by simp, by simp, by simp⟩
  | [w],         h => by rw [joined_singleton]; exact (h w List.mem_cons_self).singleSpaced
  | w :: v :: ws, h => by
      have hv : ∀ u ∈ v :: ws, IsWord u := fun u hu => h u (List.mem_cons_of_mem w hu)
      rw [joined_cons_cons]
      exact .cons (h w List.mem_cons_self) (singleSpaced_joined hv)
        (joined_ne_nil (List.cons_ne_nil v ws) hv)

/-- **The words of joined words.** -/
theorem words_joined : ∀ {ws : List Text}, (∀ w ∈ ws, IsWord w) → (joined ws).words = ws
  | [],           _ => words_nil
  | [w],          h => by rw [joined_singleton, (h w List.mem_cons_self).words_eq]
  | w :: v :: ws, h => by
      have hv : ∀ u ∈ v :: ws, IsWord u := fun u hu => h u (List.mem_cons_of_mem w hu)
      rw [joined_cons_cons, words_append_cons rfl, (h w List.mem_cons_self).words_eq,
        words_joined hv, List.singleton_append]

/-- A single-spaced text has no blanks but spaces; above all, no newline. -/
theorem SingleSpaced.newline_not_mem {t : Text} (h : SingleSpaced t) : '\n' ∉ t :=
  fun hn => absurd (h.eq_space '\n' hn (by decide)) (by decide)

end Imprint.Text
