import Imprint.Document.Reader
import Imprint.Proofs.Document.Spelling

/-!
# Document — values that are skipped

`Writes` is the grammar of JSON's values, nested to any depth and with blanks wherever they are
allowed.  It is a little wider than JSON's own: a text between quotes may hold any octets that need
no escape, whether or not they are UTF-8, and escapes of lone surrogates.

* `State.run_blanks`: blanks do not change a state that waits for the next token.
* `IsNumeral.run_skipping`: a numeral is over when an octet follows that may follow a value.
* `Writes.skipped`: a written value is skipped to its last octet, and what comes after it is read as
  if the value had not been there; by induction on how the value is written.
-/

namespace Imprint.Document

/-! ### Blanks -/

/-- Octets that are allowed between two tokens. -/
def Blanks (bs : Bytes) : Prop := ∀ b ∈ bs, isBlank b = true

instance (bs : Bytes) : Decidable (Blanks bs) := List.decidableBAll _ bs

/-- An octet that may follow a value. -/
def IsDelimiter (b : UInt8) : Prop :=
  isBlank b = true ∨ b = octet ',' ∨ b = octet ']' ∨ b = octet '\x7d'

/-- Octets that go on after a value. -/
def Delimited (bs : Bytes) : Prop := ∃ b bs', bs = b :: bs' ∧ IsDelimiter b

theorem Delimited.blanks_append {bs rest : Bytes} (hbs : Blanks bs) (h : Delimited rest) :
    Delimited (bs ++ rest) := by
  cases bs with
  | nil => exact h
  | cons b bs => exact ⟨b, bs ++ rest, rfl, .inl (hbs b List.mem_cons_self)⟩

theorem delimited_comma (bs : Bytes) : Delimited (octet ',' :: bs) := ⟨_, _, rfl, .inr (.inl rfl)⟩

theorem delimited_closing (inner : Bracket) (bs : Bytes) : Delimited (inner.closing :: bs) := by
  cases inner with
  | array => exact ⟨_, _, rfl, .inr (.inr (.inl rfl))⟩
  | object => exact ⟨_, _, rfl, .inr (.inr (.inr rfl))⟩

/-- A skipped value that waits for a token. -/
def Skip.waits : Skip → Bool
  | .value _ | .opened _ _ | .after _ _ | .key _ | .colon _ => true
  | .text _ _ _ | .word _ _ | .number _ _                   => false

theorem Skip.next_blank {skip : Skip} {b : UInt8} (hs : skip.waits = true) (hb : isBlank b = true) :
    skip.next b = .ok (.on skip) := by
  cases skip with
  | value | opened | after | key | colon =>
      simp only [next, beginValue, afterValue, beginKey, hb, if_pos]
  | text | word | number => cases hs

namespace State

variable {s s' : State} {b : UInt8} {bs rest : Bytes} {ms : Members} {skip skip' : Skip}
  {stack : List Bracket}

theorem run_cons (h : s.next b = .ok s') (bs : Bytes) : s.run (b :: bs) = s'.run bs := by
  rw [run, h]

/-- Two states that take the next octet alike go on alike. -/
theorem run_cons_congr (h : s.next b = s'.next b) (bs : Bytes) :
    s.run (b :: bs) = s'.run (b :: bs) := by
  rw [run, run, h]

/-- The state after a skipped value, with these brackets open around it. -/
def afterSkipped (ms : Members) : List Bracket → State
  | []             => .afterMember ms
  | inner :: stack => .skipping ms (.after inner stack)

theorem next_skipping (h : skip.next b = .ok (.on skip')) :
    (State.skipping ms skip).next b = .ok (.skipping ms skip') := by
  simp only [next, h]
  rfl

theorem next_skipping_close (h : skip.next b = .ok (Skip.close stack)) :
    (State.skipping ms skip).next b = .ok (afterSkipped ms stack) := by
  cases stack <;> (simp only [next, h]; rfl)

/-- A state that waits for a token. -/
def waits : State → Bool
  | .start | .objectStart | .beforeKey _ | .afterKey _ _ | .afterMember _ => true
  | .arrayStart | .afterElement _ | .beforeValue _ | .done _              => true
  | .skipping _ skip                                                      => skip.waits
  | .wrongWord _ _ _ | .wrongNumber _ _ _ | .wrongText _                  => false
  | .inKey _ _ | .inText _ _ | .inNull _ _                                => false

theorem next_blank (hs : s.waits = true) (hb : isBlank b = true) : s.next b = .ok s := by
  cases s with
  | start | objectStart | beforeKey | afterKey | afterMember | arrayStart | afterElement
  | beforeValue | done => simp only [next, nextMember, nextElement, beginValue, hb, if_pos]
  | skipping ms skip => exact next_skipping (Skip.next_blank hs hb)
  | wrongWord | wrongNumber | wrongText | inKey | inText | inNull => cases hs

/-- Blanks do not change a state that waits for a token. -/
theorem run_blanks (hs : s.waits = true) (hbs : Blanks bs) (rest : Bytes) :
    s.run (bs ++ rest) = s.run rest := by
  induction bs with
  | nil => rfl
  | cons b bs ih =>
      rw [List.cons_append, run_cons (next_blank hs (hbs b List.mem_cons_self))]
      exact ih fun b' hb' => hbs b' (List.mem_cons_of_mem b hb')

end State

/-! ### Numerals -/

/-- At least one digit. -/
def Digits (bs : Bytes) : Prop := bs ≠ [] ∧ ∀ b ∈ bs, isDigit b = true

/-- Whole digits, without a zero in front of others. -/
inductive IsWhole : Bytes → Prop where
  | zero : IsWhole [octet '0']
  | digits {b : UInt8} {bs : Bytes} (hb : isDigit b = true) (hz : b ≠ octet '0')
      (h : ∀ d ∈ bs, isDigit d = true) : IsWhole (b :: bs)

inductive IsFraction : Bytes → Prop where
  | none : IsFraction []
  | digits {bs : Bytes} (h : Digits bs) : IsFraction (octet '.' :: bs)

inductive IsExponent : Bytes → Prop where
  | none : IsExponent []
  | unsigned {e : UInt8} {bs : Bytes} (he : e = octet 'e' ∨ e = octet 'E') (h : Digits bs) :
      IsExponent (e :: bs)
  | signed {e s : UInt8} {bs : Bytes} (he : e = octet 'e' ∨ e = octet 'E')
      (hs : s = octet '+' ∨ s = octet '-') (h : Digits bs) : IsExponent (e :: s :: bs)

/-- The numerals of JSON. -/
inductive IsNumeral : Bytes → Prop where
  | positive {w f e : Bytes} (hw : IsWhole w) (hf : IsFraction f) (he : IsExponent e) :
      IsNumeral (w ++ f ++ e)
  | negative {w f e : Bytes} (hw : IsWhole w) (hf : IsFraction f) (he : IsExponent e) :
      IsNumeral (octet '-' :: (w ++ f ++ e))

namespace Phase

/-- Octets that lead from one phase of a numeral to another. -/
inductive Reads : Phase → Bytes → Phase → Prop where
  | nil (p : Phase) : Reads p [] p
  | cons {p p₁ p' : Phase} {b : UInt8} {bs : Bytes} (h : p.next b = .on p₁) (t : Reads p₁ bs p') :
      Reads p (b :: bs) p'

variable {p p' p'' : Phase} {b : UInt8} {bs bs' : Bytes}

theorem Reads.append (h : Reads p bs p') (h' : Reads p' bs' p'') : Reads p (bs ++ bs') p'' := by
  induction h with
  | nil => exact h'
  | cons h _ ih => exact .cons h (ih h')

/-- Digits after a digit. -/
theorem reads_digits (hp : ∀ b, isDigit b = true → p.next b = .on p)
    (h : ∀ b ∈ bs, isDigit b = true) : Reads p bs p := by
  induction bs with
  | nil => exact .nil p
  | cons b bs ih =>
      exact .cons (hp b (h b List.mem_cons_self)) (ih fun d hd => h d (List.mem_cons_of_mem b hd))

/-- Digits where the first leads to the phase of the others. -/
theorem reads_of_digits (hb : ∀ b, isDigit b = true → p.next b = .on p')
    (hp : ∀ b, isDigit b = true → p'.next b = .on p') (h : Digits bs) : Reads p bs p' := by
  obtain ⟨hne, hd⟩ := h
  cases bs with
  | nil => exact absurd rfl hne
  | cons b bs =>
      exact .cons (hb b (hd b List.mem_cons_self))
        (reads_digits hp fun d h => hd d (List.mem_cons_of_mem b h))

theorem reads_whole (h : IsWhole bs) :
    ∃ p, Reads .sign bs p ∧ (p = .zero ∨ p = .whole) := by
  cases h with
  | zero => exact ⟨.zero, .cons rfl (.nil _), .inl rfl⟩
  | digits hb hz h =>
      refine ⟨.whole, .cons ?_ (reads_digits ?_ h), .inr rfl⟩
      · simp only [next, if_neg hz, if_pos hb]
      · intro d hd
        simp only [next, if_pos hd]

theorem reads_fraction (hp : p = .zero ∨ p = .whole) (h : IsFraction bs) :
    ∃ p', Reads p bs p' ∧ (p' = .zero ∨ p' = .whole ∨ p' = .fraction) := by
  cases h with
  | none => exact ⟨p, .nil p, hp.imp_right .inl⟩
  | digits h =>
      have hpoint : p.next (octet '.') = .on .point := by rcases hp with rfl | rfl <;> rfl
      refine ⟨.fraction, .cons hpoint (reads_of_digits ?_ ?_ h), .inr (.inr rfl)⟩
      · intro d hd; simp only [next, if_pos hd]
      · intro d hd; simp only [next, if_pos hd]

theorem reads_exponent (hp : p = .zero ∨ p = .whole ∨ p = .fraction) (h : IsExponent bs) :
    ∃ p', Reads p bs p' ∧ p'.complete = true := by
  have hpower : ∀ d, isDigit d = true → Phase.next .power d = .on .power := by
    intro d hd; simp only [next, if_pos hd]
  have hexponent : ∀ {e}, e = octet 'e' ∨ e = octet 'E' → p.next e = .on .exponent := by
    intro e he
    rcases he with rfl | rfl <;> rcases hp with rfl | rfl | rfl <;> rfl
  cases h with
  | none =>
      refine ⟨p, .nil p, ?_⟩
      rcases hp with rfl | rfl | rfl <;> rfl
  | unsigned he h =>
      refine ⟨.power, .cons (hexponent he) (reads_of_digits ?_ hpower h), rfl⟩
      intro d hd; simp only [next, if_pos hd]
  | @signed e s bs he hs h =>
      have hsign : Phase.next .exponent s = .on .exponentSign := by rcases hs with rfl | rfl <;> rfl
      refine ⟨.power, .cons (hexponent he) (.cons hsign (reads_of_digits ?_ hpower h)), rfl⟩
      intro d hd; simp only [next, if_pos hd]

/-- Everything after the sign. -/
theorem reads_unsigned {w f e : Bytes} (hw : IsWhole w) (hf : IsFraction f) (he : IsExponent e) :
    ∃ p, Reads .sign (w ++ f ++ e) p ∧ p.complete = true := by
  obtain ⟨p, hrw, hp⟩ := reads_whole hw
  obtain ⟨p', hrf, hp'⟩ := reads_fraction hp hf
  obtain ⟨p'', hre, hc⟩ := reads_exponent hp' he
  exact ⟨p'', (hrw.append hrf).append hre, hc⟩

/-- A numeral without a sign begins as one goes on after its sign. -/
theorem begin?_of_next_sign (h : Phase.next .sign b = .on p) : begin? b = some p := by
  simp only [next] at h
  by_cases hz : b = octet '0'
  · subst hz
    cases h
    rfl
  · rw [if_neg hz] at h
    by_cases hd : isDigit b = true
    · rw [if_pos hd] at h
      cases h
      have hm : b ≠ octet '-' := by rintro rfl; cases hd
      simp only [begin?, if_neg hm, if_neg hz, if_pos hd]
    · rw [if_neg hd] at h
      cases h

/-- A numeral that may end is over at an octet that may follow a value. -/
theorem next_of_isDelimiter (hp : p.complete = true) (hb : IsDelimiter b) : p.next b = .over := by
  simp only [IsDelimiter, isBlank, Bool.or_eq_true, decide_eq_true_eq, or_assoc] at hb
  rcases hb with rfl | rfl | rfl | rfl | rfl | rfl | rfl
  all_goals cases p <;> first | rfl | cases hp

end Phase

/-- A numeral begins with a sign or a digit, and is read to a phase in which it may end. -/
theorem IsNumeral.reads {bs : Bytes} (h : IsNumeral bs) :
    ∃ b bs' p p', bs = b :: bs' ∧ Phase.begin? b = some p ∧ Phase.Reads p bs' p' ∧
      p'.complete = true := by
  cases h with
  | @positive w f e hw hf he =>
      obtain ⟨p', hr, hc⟩ := Phase.reads_unsigned hw hf he
      generalize w ++ f ++ e = bs at hr ⊢
      cases hr with
      | nil => cases hc
      | cons h t => exact ⟨_, _, _, p', rfl, Phase.begin?_of_next_sign h, t, hc⟩
  | negative hw hf he =>
      obtain ⟨p', hr, hc⟩ := Phase.reads_unsigned hw hf he
      exact ⟨_, _, .sign, p', rfl, rfl, hr, hc⟩

/-- What begins a numeral begins nothing else. -/
theorem ne_of_begin? {b c : UInt8} {p : Phase} (h : Phase.begin? b = some p)
    (hc : Phase.begin? c = none) : b ≠ c := by
  rintro rfl
  rw [hc] at h
  cases h

theorem isBlank_of_begin? {b : UInt8} {p : Phase} (h : Phase.begin? b = some p) :
    isBlank b = false := by
  simp [isBlank, ne_of_begin? h (c := octet ' ') rfl, ne_of_begin? h (c := octet '\n') rfl,
    ne_of_begin? h (c := octet '\t') rfl, ne_of_begin? h (c := octet '\r') rfl]

theorem Skip.beginValue_of_begin? {b : UInt8} {p : Phase} (h : Phase.begin? b = some p)
    (stack : List Bracket) : beginValue stack b = .ok (.on (.number stack p)) := by
  have hword : word? b = none := by
    simp only [word?, if_neg (ne_of_begin? h (c := octet 'n') rfl),
      if_neg (ne_of_begin? h (c := octet 't') rfl), if_neg (ne_of_begin? h (c := octet 'f') rfl)]
  simp only [beginValue, isBlank_of_begin? h, if_neg (ne_of_begin? h (c := octet '"') rfl),
    if_neg (ne_of_begin? h (c := octet '[') rfl), if_neg (ne_of_begin? h (c := octet '\x7b') rfl),
    hword, h]
  rfl

namespace State

variable {bs rest : Bytes} {ms : Members} {stack : List Bracket} {p p' : Phase}

theorem run_number (h : Phase.Reads p bs p') (rest : Bytes) :
    (skipping ms (.number stack p)).run (bs ++ rest) = (skipping ms (.number stack p')).run rest := by
  induction h with
  | nil => rfl
  | @cons p p₁ p' b bs h _ ih =>
      have hnext : Skip.next (.number stack p) b = .ok (.on (.number stack p₁)) := by
        simp only [Skip.next, h]
      rw [List.cons_append, run_cons (next_skipping hnext)]
      exact ih

/-- At an octet that may follow a value, a numeral is over and what is around it goes on. -/
theorem run_number_over (hp : p.complete = true) (hr : Delimited rest) :
    (skipping ms (.number stack p)).run rest = (afterSkipped ms stack).run rest := by
  obtain ⟨b, rest, rfl, hb⟩ := hr
  have hover := Phase.next_of_isDelimiter hp hb
  refine run_cons_congr ?_ rest
  cases stack with
  | nil =>
      simp only [next, Skip.next, hover, afterSkipped]
      rfl
  | cons => simp only [next, Skip.next, hover, afterSkipped]

end State

theorem IsNumeral.run_skipping {bs rest : Bytes} (h : IsNumeral bs) (ms : Members)
    (stack : List Bracket) (hr : Delimited rest) :
    (State.skipping ms (.value stack)).run (bs ++ rest) = (State.afterSkipped ms stack).run rest := by
  obtain ⟨b, bs, p, p', rfl, hb, hreads, hc⟩ := h.reads
  have hnext : Skip.next (.value stack) b = .ok (.on (.number stack p)) :=
    Skip.beginValue_of_begin? hb stack
  rw [List.cons_append, State.run_cons (State.next_skipping hnext),
    State.run_number hreads, State.run_number_over hc hr]

/-! ### Texts -/

/-- What may stand between the quotes of a text that is skipped. -/
inductive Unread : Bytes → Prop where
  | nil : Unread []
  | plain {b : UInt8} {bs : Bytes} (hb : Quotation.IsPlain b) (h : Unread bs) : Unread (b :: bs)
  | letter {l c : Char} {bs : Bytes} (hl : (l, c) ∈ letters) (h : Unread bs) :
      Unread (octet '\\' :: octet l :: bs)
  | number {ds bs : Bytes} {n : Nat} (hd : FourDigits ds n) (h : Unread bs) :
      Unread (octet '\\' :: octet 'u' :: (ds ++ bs))

namespace State

variable {bs rest : Bytes} {ms : Members} {stack : List Bracket} {isKey : Bool}

/-- Four digits after a backslash and the letter `u`. -/
theorem run_text_digits {ds : Bytes} {n : Nat} (h : FourDigits ds n) (rest : Bytes) :
    (skipping ms (.text stack isKey (.digits 3 true))).run (ds ++ rest) =
      (skipping ms (.text stack isKey .plain)).run rest := by
  obtain ⟨values, hl, hds, -⟩ := h
  match values, hl, ds, hds with
  | [_, _, _, _], _, [a, b, c, d], .cons ha (.cons hb (.cons hc (.cons hd .nil))) =>
      have hdigit : ∀ {b : UInt8} {d : Nat}, IsHexDigit b d → (hexValue? b).isSome = true := by
        intro b d h
        rw [h.hexValue?]
        rfl
      have ha := hdigit ha
      have hb := hdigit hb
      have hc := hdigit hc
      have hd := hdigit hd
      rw [List.cons_append, run_cons (next_skipping (by simp only [Skip.next, ha]; rfl)),
        List.cons_append, run_cons (next_skipping (by simp only [Skip.next, hb]; rfl)),
        List.cons_append, run_cons (next_skipping (by simp only [Skip.next, hc]; rfl)),
        List.cons_append, run_cons (next_skipping (by simp only [Skip.next, hd]; rfl))]
      rfl

theorem run_text (h : Unread bs) (rest : Bytes) :
    (skipping ms (.text stack isKey .plain)).run (bs ++ rest) =
      (skipping ms (.text stack isKey .plain)).run rest := by
  induction h with
  | nil => rfl
  | @plain b bs hb _ ih =>
      obtain ⟨hq, hb, hc⟩ := hb
      have hnext : Skip.next (.text stack isKey .plain) b = .ok (.on (.text stack isKey .plain)) := by
        simp only [Skip.next, if_neg hq, if_neg hb, if_neg hc]
      rw [List.cons_append, run_cons (next_skipping hnext)]
      exact ih
  | @letter l c bs hl _ ih =>
      obtain ⟨hu, hl⟩ := unescaped?_of_mem_letters hl
      have hnext : Skip.next (.text stack isKey .escape) (octet l) =
          .ok (.on (.text stack isKey .plain)) := by
        simp only [Skip.next, if_neg hu, hl]
        rfl
      rw [List.cons_append, List.cons_append, run_cons (next_skipping rfl),
        run_cons (next_skipping hnext)]
      exact ih
  | number hd _ ih =>
      rw [List.cons_append, List.cons_append, run_cons (next_skipping rfl),
        run_cons (next_skipping rfl), List.append_assoc, run_text_digits hd]
      exact ih

end State

/-! ### Values -/

namespace Bracket

/-- The octet that opens the bracket. -/
def opening : Bracket → UInt8
  | .array  => octet '['
  | .object => octet '\x7b'

end Bracket

/-- What is written: a value, one item between brackets with the blanks around it, or all items
between brackets. -/
inductive Part where
  | value
  | item (inner : Bracket)
  | items (inner : Bracket)

/-- The ways to write a value, whatever it is. -/
inductive Writes : Part → Bytes → Prop where
  | word {w : String} (h : w ∈ ["null", "true", "false"]) : Writes .value (w.toList.map octet)
  | numeral {bs : Bytes} (h : IsNumeral bs) : Writes .value bs
  | text {bs : Bytes} (h : Unread bs) : Writes .value (octet '"' :: (bs ++ [octet '"']))
  | empty (inner : Bracket) {bs : Bytes} (h : Blanks bs) :
      Writes .value (inner.opening :: (bs ++ [inner.closing]))
  | nested (inner : Bracket) {bs : Bytes} (h : Writes (.items inner) bs) :
      Writes .value (inner.opening :: (bs ++ [inner.closing]))
  | element {l bs r : Bytes} (hl : Blanks l) (h : Writes .value bs) (hr : Blanks r) :
      Writes (.item .array) (l ++ bs ++ r)
  | member {l k l' r' bs r : Bytes} (hl : Blanks l) (hk : Unread k) (hl' : Blanks l')
      (hr' : Blanks r') (h : Writes .value bs) (hr : Blanks r) :
      Writes (.item .object)
        (l ++ octet '"' :: (k ++ octet '"' :: (l' ++ octet ':' :: (r' ++ bs ++ r))))
  | one {inner : Bracket} {bs : Bytes} (h : Writes (.item inner) bs) : Writes (.items inner) bs
  | more {inner : Bracket} {bs bs' : Bytes} (h : Writes (.item inner) bs)
      (t : Writes (.items inner) bs') : Writes (.items inner) (bs ++ octet ',' :: bs')

/-- A value begins with an octet that is not blank and closes no array. -/
theorem Writes.exists_head {bs : Bytes} (h : Writes .value bs) :
    ∃ b bs', bs = b :: bs' ∧ isBlank b = false ∧ b ≠ octet ']' := by
  cases h with
  | @word w h =>
      simp only [List.mem_cons, List.not_mem_nil, or_false] at h
      rcases h with rfl | rfl | rfl
      all_goals exact ⟨_, _, rfl, by decide, by decide⟩
  | numeral h =>
      obtain ⟨b, bs, p, p', rfl, hb, -, -⟩ := h.reads
      exact ⟨b, bs, rfl, isBlank_of_begin? hb, ne_of_begin? hb rfl⟩
  | text h => exact ⟨_, _, rfl, by decide, by decide⟩
  | empty inner h => cases inner <;> exact ⟨_, _, rfl, by decide, by decide⟩
  | nested inner h => cases inner <;> exact ⟨_, _, rfl, by decide, by decide⟩

namespace Skip

/-- Before an item. -/
def beforeItem (inner : Bracket) (stack : List Bracket) : Skip :=
  match inner with
  | .array  => .value (inner :: stack)
  | .object => .key (inner :: stack)

end Skip

namespace State

variable {bs rest : Bytes} {ms : Members} {stack : List Bracket} {inner : Bracket} {skip : Skip}

theorem waits_beforeItem (ms : Members) (inner : Bracket) (stack : List Bracket) :
    (skipping ms (.beforeItem inner stack)).waits = true := by
  cases inner <;> rfl

/-- The first item after an opening bracket is read as one after a comma. -/
theorem run_opened (h : Writes (.items inner) bs) (rest : Bytes) :
    (skipping ms (.opened inner stack)).run (bs ++ rest) =
      (skipping ms (.beforeItem inner stack)).run (bs ++ rest) := by
  obtain ⟨l, b, bs, rfl, hl, hb, hc⟩ : ∃ l b bs', bs = l ++ b :: bs' ∧ Blanks l ∧
      isBlank b = false ∧ b ≠ inner.closing := by
    have hitem : ∀ {bs}, Writes (.item inner) bs → ∃ l b bs', bs = l ++ b :: bs' ∧ Blanks l ∧
        isBlank b = false ∧ b ≠ inner.closing := by
      intro bs h
      cases h with
      | @element l bs r hl hv hr =>
          obtain ⟨b, bs, rfl, hb, hc⟩ := hv.exists_head
          exact ⟨l, b, bs ++ r, by simp, hl, hb, hc⟩
      | member hl => exact ⟨_, _, _, rfl, hl, by decide, by decide⟩
    cases h with
    | one h => exact hitem h
    | @more _ bs bs' h t =>
        obtain ⟨l, b, bs, rfl, hl, hb, hc⟩ := hitem h
        exact ⟨l, b, bs ++ octet ',' :: bs', by simp, hl, hb, hc⟩
  rw [List.append_assoc, run_blanks rfl hl,
    run_blanks (waits_beforeItem ms inner stack) hl, List.cons_append]
  refine run_cons_congr ?_ _
  cases inner <;>
    simp only [next, Skip.next, Skip.beforeItem, hb, if_neg hc, Bool.false_eq_true, if_false]

theorem run_closing (ms : Members) (inner : Bracket) (stack : List Bracket) (rest : Bytes) :
    (skipping ms (.after inner stack)).run (inner.closing :: rest) =
      (afterSkipped ms stack).run rest := by
  refine run_cons (next_skipping_close ?_) rest
  cases inner <;> rfl

theorem run_opening (ms : Members) (inner : Bracket) (stack : List Bracket) (rest : Bytes) :
    (skipping ms (.value stack)).run (inner.opening :: rest) =
      (skipping ms (.opened inner stack)).run rest := by
  refine run_cons (next_skipping ?_) rest
  cases inner <;> rfl

theorem run_comma (ms : Members) (inner : Bracket) (stack : List Bracket) (rest : Bytes) :
    (skipping ms (.after inner stack)).run (octet ',' :: rest) =
      (skipping ms (.beforeItem inner stack)).run rest := by
  refine run_cons (next_skipping ?_) rest
  cases inner <;> rfl

end State

/-- The octets lead over what is written, and what comes after them is read from there. -/
def Skipped (ms : Members) : Part → Bytes → Prop
  | .value, bs => ∀ stack rest, Delimited rest →
      (State.skipping ms (.value stack)).run (bs ++ rest) = (State.afterSkipped ms stack).run rest
  | .item inner, bs => ∀ stack rest, Delimited rest →
      (State.skipping ms (.beforeItem inner stack)).run (bs ++ rest) =
        (State.skipping ms (.after inner stack)).run rest
  | .items inner, bs => ∀ stack rest,
      (State.skipping ms (.beforeItem inner stack)).run (bs ++ inner.closing :: rest) =
        (State.afterSkipped ms stack).run rest

/-- **What is written is skipped.** -/
theorem Writes.skipped {part : Part} {bs : Bytes} (h : Writes part bs) (ms : Members) :
    Skipped ms part bs := by
  induction h with
  | @word w h =>
      intro stack rest _
      simp only [List.mem_cons, List.not_mem_nil, or_false] at h
      rcases h with rfl | rfl | rfl <;> cases stack <;> rfl
  | numeral h =>
      intro stack rest hr
      exact h.run_skipping ms stack hr
  | text h =>
      intro stack rest _
      rw [List.cons_append, List.append_assoc, State.run_cons (State.next_skipping rfl),
        State.run_text h, List.singleton_append, State.run_cons (State.next_skipping_close rfl)]
  | empty inner h =>
      intro stack rest _
      rw [List.cons_append, List.append_assoc, State.run_opening,
        State.run_blanks rfl h, List.singleton_append]
      refine State.run_cons (State.next_skipping_close ?_) rest
      cases inner <;> rfl
  | nested inner h ih =>
      intro stack rest _
      rw [List.cons_append, List.append_assoc, State.run_opening, State.run_opened h,
        List.singleton_append]
      exact ih stack rest
  | element hl _ hr ih =>
      intro stack rest hrest
      rw [List.append_assoc, List.append_assoc,
        State.run_blanks (State.waits_beforeItem ms _ stack) hl]
      show (State.skipping ms (.value (.array :: stack))).run _ = _
      rw [ih (.array :: stack) _ (hrest.blanks_append hr)]
      exact State.run_blanks rfl hr rest
  | @member l k l' r' bs r hl hk hl' hr' _ hr ih =>
      intro stack rest hrest
      rw [List.append_assoc, State.run_blanks (State.waits_beforeItem ms _ stack) hl]
      show (State.skipping ms (.key (.object :: stack))).run _ = _
      simp only [List.cons_append, List.append_assoc]
      rw [State.run_cons (State.next_skipping rfl), State.run_text hk,
        State.run_cons (State.next_skipping rfl), State.run_blanks rfl hl',
        State.run_cons (State.next_skipping rfl), State.run_blanks rfl hr',
        ih (.object :: stack) _ (hrest.blanks_append hr)]
      exact State.run_blanks rfl hr rest
  | one _ ih =>
      intro stack rest
      rw [ih stack _ (delimited_closing _ rest), State.run_closing]
  | more _ _ ih iht =>
      intro stack rest
      rw [List.append_assoc, List.cons_append, ih stack _ (delimited_comma _), State.run_comma,
        iht stack rest]

end Imprint.Document
