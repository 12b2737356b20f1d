import Mathlib.Data.List.Basic
import Imprint.Proofs.Text.Lines

/-!
# Text — where a phrase cannot stand

A phrase stands in a text if it is a run of consecutive characters there (`occursIn_iff`).  What
can be said of a phrase in a text made of parts, of which some are fixed and one may be anything:

* it stands in no text that lacks one of its characters (`not_infix_of_not_mem`);
* if it cannot *begin* in the front part, all of that part is before it
  (`exists_front_of_mayBegin_eq_false`), and so it stands in the whole exactly if it stands in what
  comes after that part (`infix_append_iff`);
* a last character that it does not hold is no part of it (`infix_concat_iff_of_not_mem`) and comes
  after it (`exists_concat_of_not_mem`);
* if it holds no newline, it reaches over no end of a line: it stands in a text exactly if it stands
  in one of its lines (`infix_iff_exists_piece`).
-/

namespace Imprint.Text

/-- A text that lacks a character of the phrase does not hold the phrase. -/
theorem not_infix_of_not_mem {phrase t : Text} {c : Char} (hc : c ∈ phrase) (ht : c ∉ t) :
    ¬ phrase <:+: t :=
  fun h => ht (h.subset hc)

/-- An occurrence of the phrase may begin in this text, if the right one follows: somewhere in it,
the phrase and the rest of the text agree as far as both of them go. -/
def mayBegin (phrase : Text) : Text → Bool
  | []     => false
  | c :: t => phrase.isPrefixOf (c :: t) || (c :: t).isPrefixOf phrase || mayBegin phrase t

theorem mayBegin_cons_eq_false {phrase t : Text} {c : Char} :
    mayBegin phrase (c :: t) = false ↔
      (¬ phrase <+: c :: t ∧ ¬ c :: t <+: phrase) ∧ mayBegin phrase t = false := by
  rw [mayBegin, Bool.or_eq_false_iff, Bool.or_eq_false_iff]
  simp only [← Bool.not_eq_true, List.isPrefixOf_iff_prefix]

/-- A phrase that cannot begin in the front of a text has the whole front before it, wherever in the
text it stands. -/
theorem exists_front_of_mayBegin_eq_false {phrase after t : Text} :
    ∀ {front before : Text}, mayBegin phrase front = false →
      front ++ t = before ++ phrase ++ after → ∃ b, before = front ++ b ∧ t = b ++ phrase ++ after
  | [],     before, _, e => ⟨before, rfl, e⟩
  | c :: f, [],     h, e => by
      obtain ⟨⟨h₁, h₂⟩, -⟩ := mayBegin_cons_eq_false.1 h
      have hp : phrase <+: (c :: f) ++ t := ⟨after, e.symm⟩
      -- what stands at the front is as long as the front or longer, or else within it
      rcases List.prefix_or_prefix_of_prefix hp (List.prefix_append (c :: f) t) with hp | hp
      · exact absurd hp h₁
      · exact absurd hp h₂
  | c :: f, d :: before, h, e => by
      obtain ⟨-, h₃⟩ := mayBegin_cons_eq_false.1 h
      simp only [List.cons_append, List.cons.injEq] at e
      obtain ⟨rfl, e⟩ := e
      obtain ⟨b, rfl, ht⟩ := exists_front_of_mayBegin_eq_false h₃ e
      exact ⟨b, rfl, ht⟩

/-- A phrase that cannot begin in the front of a text stands in the rest if anywhere. -/
theorem infix_append_iff {phrase front : Text} (h : mayBegin phrase front = false) (t : Text) :
    phrase <:+: front ++ t ↔ phrase <:+: t := by
  refine ⟨?_, fun hi => hi.trans (List.suffix_append front t).isInfix⟩
  rintro ⟨before, after, e⟩
  obtain ⟨b, -, rfl⟩ := exists_front_of_mayBegin_eq_false h e.symm
  exact ⟨b, after, rfl⟩

/-- A phrase cannot begin in a text that lacks its first character. -/
theorem mayBegin_eq_false {c : Char} {phrase : Text} :
    ∀ {front : Text}, c ∉ front → mayBegin (c :: phrase) front = false
  | [],     _ => rfl
  | d :: f, h => by
      have hcd : c ≠ d := fun e => h (e ▸ List.mem_cons_self)
      refine mayBegin_cons_eq_false.2 ⟨⟨fun hp => hcd ?_, fun hp => hcd ?_⟩,
        mayBegin_eq_false fun hf => h (List.mem_cons_of_mem d hf)⟩
      · exact (List.cons_prefix_cons.1 hp).1
      · exact (List.cons_prefix_cons.1 hp).1.symm

/-- What stands at the end of a text holds its last character. -/
theorem mem_of_suffix_concat {phrase t : Text} {c : Char} (hp : phrase ≠ [])
    (h : phrase <:+ t ++ [c]) : c ∈ phrase := by
  obtain ⟨s, e⟩ := h
  have hl : phrase.getLast? = some c := by
    rw [← List.getLast?_append_of_ne_nil s hp, e, List.getLast?_concat]
  exact List.mem_of_getLast? hl

/-- A last character that the phrase does not hold is no part of it. -/
theorem infix_concat_iff_of_not_mem {phrase t : Text} {c : Char} (hp : phrase ≠ [])
    (hc : c ∉ phrase) : phrase <:+: t ++ [c] ↔ phrase <:+: t := by
  have hno : ¬ phrase <:+ t ++ [c] := fun h => hc (mem_of_suffix_concat hp h)
  rw [List.infix_concat_iff, or_iff_right hno]

/-- A last character that the phrase does not hold comes after the phrase, wherever in the text it
stands. -/
theorem exists_concat_of_not_mem {phrase before after t : Text} {c : Char} (hp : phrase ≠ [])
    (hc : c ∉ phrase) (e : t ++ [c] = before ++ phrase ++ after) :
    ∃ a, after = a ++ [c] ∧ t = before ++ phrase ++ a := by
  rcases after.eq_nil_or_concat' with rfl | ⟨a, d, rfl⟩
  · rw [List.append_nil] at e
    exact absurd (mem_of_suffix_concat hp ⟨before, e.symm⟩) hc
  · rw [← List.append_assoc] at e
    obtain ⟨ht, hd⟩ := List.append_inj' e rfl
    exact ⟨a, by rw [hd], ht⟩

/-! ### Phrases and lines -/

/-- A phrase without a newline does not reach from an ended line into what follows. -/
theorem infix_ended_append_iff {phrase p : Text} (hn : '\n' ∉ phrase) (hp : IsEnded p) (t : Text) :
    phrase <:+: p ++ t ↔ phrase <:+: p ∨ phrase <:+: t := by
  obtain ⟨body, -, rfl⟩ := hp
  -- what such a phrase holds of the line would be the line's end, with the newline
  have hno : ¬ ∃ l₁ l₂, l₁ ≠ [] ∧ l₂ ≠ [] ∧ phrase = l₁ ++ l₂ ∧ l₁ <:+ body ++ ['\n'] ∧
      l₂ <+: t := by
    rintro ⟨l₁, l₂, h₁, -, rfl, hs, -⟩
    exact hn (List.mem_append_left l₂ (mem_of_suffix_concat h₁ hs))
  rw [List.infix_append_iff_ne_nil, or_iff_left hno]

theorem infix_flatten_iff {phrase : Text} (h₀ : phrase ≠ []) (hn : '\n' ∉ phrase) {ps : List Text}
    (h : Lined ps) : phrase <:+: ps.flatten ↔ ∃ p ∈ ps, phrase <:+: p := by
  induction h with
  | nil => simpa using h₀
  | rest => simp
  | cons hp _ ih =>
      rw [List.flatten_cons, infix_ended_append_iff hn hp, ih, List.exists_mem_cons_iff]

/-- **A phrase without a newline stands in a text where it stands in a line.** -/
theorem infix_iff_exists_piece {phrase : Text} (h₀ : phrase ≠ []) (hn : '\n' ∉ phrase) (t : Text) :
    phrase <:+: t ↔ ∃ p ∈ t.pieces, phrase <:+: p := by
  rw [← infix_flatten_iff h₀ hn (lined_pieces t), flatten_pieces]

end Imprint.Text
