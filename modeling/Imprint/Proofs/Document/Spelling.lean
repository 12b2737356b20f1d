import Mathlib.Data.List.Forall2
import Imprint.Document.Printer
import Imprint.Proofs.Document.Quotation

/-!
# Document — the ways to write a text

JSON leaves a choice in how a character is written between quotes: as itself, by a letter, by the
four hexadecimal digits of its number, or, beyond U+FFFF, by those of two surrogates.  `Spells` lists
these ways, and `WritesText` says which octets are a text between quotes.

* `Spells.reads`: whichever way is taken, the reader gathers the character.
* `writesText_quoted`: the printed form of a text is one of them.
-/

namespace Imprint.Document

/-! ### Hexadecimal digits -/

/-- A hexadecimal digit of this value, in either case. -/
def IsHexDigit (b : UInt8) (d : Nat) : Prop :=
  d < 16 ∧ (b = octet d.digitChar ∨ b = octet d.digitChar.toUpper)

/-- Four hexadecimal digits that make up the number. -/
def FourDigits (bs : Bytes) (n : Nat) : Prop :=
  ∃ ds : List Nat, ds.length = 4 ∧ List.Forall₂ IsHexDigit bs ds ∧
    n = ds.foldl (fun n d => 16 * n + d) 0

theorem hexValue?_digitChar : ∀ d < 16,
    hexValue? (octet d.digitChar) = some d ∧ hexValue? (octet d.digitChar.toUpper) = some d := by
  decide

theorem IsHexDigit.hexValue? {b : UInt8} {d : Nat} (h : IsHexDigit b d) :
    Document.hexValue? b = some d := by
  obtain ⟨hd, rfl | rfl⟩ := h
  · exact (hexValue?_digitChar d hd).1
  · exact (hexValue?_digitChar d hd).2

theorem foldl_hexValue? {bs : Bytes} {ds : List Nat} (h : List.Forall₂ IsHexDigit bs ds) (n : Nat) :
    bs.foldl (fun n b => do return 16 * (← n) + (← hexValue? b)) (some n) =
      some (ds.foldl (fun n d => 16 * n + d) n) := by
  induction h generalizing n with
  | nil => rfl
  | @cons b d bs ds hb _ ih =>
      rw [List.foldl_cons, List.foldl_cons, ← ih, hb.hexValue?]
      rfl

theorem FourDigits.length {bs : Bytes} {n : Nat} (h : FourDigits bs n) : bs.length = 4 := by
  obtain ⟨ds, hl, hds, -⟩ := h
  rw [hds.length_eq, hl]

theorem FourDigits.hexNumber? {bs : Bytes} {n : Nat} (h : FourDigits bs n) :
    Document.hexNumber? bs = some n := by
  obtain ⟨ds, -, hds, rfl⟩ := h
  exact foldl_hexValue? hds 0

/-! ### Characters -/

/-- The letters that may follow a backslash, and what each of them stands for. -/
def letters : List (Char × Char) :=
  [('"', '"'), ('\\', '\\'), ('/', '/'), ('b', '\x08'), ('f', '\x0c'), ('n', '\n'), ('r', '\r'),
    ('t', '\t')]

theorem unescaped?_of_mem_letters {l c : Char} (h : (l, c) ∈ letters) :
    octet l ≠ octet 'u' ∧ unescaped? (octet l) = some c := by
  have hall : ∀ p ∈ letters, octet p.1 ≠ octet 'u' ∧ unescaped? (octet p.1) = some p.2 := by decide
  exact hall (l, c) h

/-- The ways to write a character between quotes. -/
inductive Spells : Char → Bytes → Prop where
  | itself {c : Char} (hq : c ≠ '"') (hb : c ≠ '\\') (hc : 0x20 ≤ c.toNat) :
      Spells c (String.utf8EncodeChar c)
  | letter {l c : Char} (h : (l, c) ∈ letters) : Spells c [octet '\\', octet l]
  | number {c : Char} {ds : Bytes} (h : FourDigits ds c.toNat) :
      Spells c (octet '\\' :: octet 'u' :: ds)
  | surrogates {c : Char} {hs ls : Bytes} (hc : 0x10000 ≤ c.toNat)
      (hh : FourDigits hs (0xd800 + (c.toNat - 0x10000) / 0x400))
      (hl : FourDigits ls (0xdc00 + (c.toNat - 0x10000) % 0x400)) :
      Spells c (octet '\\' :: octet 'u' :: (hs ++ octet '\\' :: octet 'u' :: ls))

theorem toNat_valid (c : Char) : c.toNat < 0xd800 ∨ 0xdfff < c.toNat ∧ c.toNat < 0x110000 := c.valid

namespace Quotation

/-- Two surrogates make one character. -/
theorem reads_surrogates {c : Char} {hs ls : Bytes} (hc : 0x10000 ≤ c.toNat)
    (hh : FourDigits hs (0xd800 + (c.toNat - 0x10000) / 0x400))
    (hl : FourDigits ls (0xdc00 + (c.toNat - 0x10000) % 0x400)) (done : Bytes) :
    Reads ⟨done, .plain⟩ (octet '\\' :: octet 'u' :: (hs ++ octet '\\' :: octet 'u' :: ls))
      ⟨(String.utf8EncodeChar c).reverse ++ done, .plain⟩ := by
  have hmax : c.toNat < 0x110000 := by
    rcases toNat_valid c with h | h <;> omega
  generalize hn : c.toNat - 0x10000 = n at hh hl
  have hhigh : Reads ⟨done, .digits none []⟩ hs ⟨done, .surrogate (0xd800 + n / 0x400)⟩ := by
    refine reads_fourDigits hh.length hh.hexNumber? ?_
    simp only [pushValue,
      if_pos (show 0xd800 ≤ 0xd800 + n / 0x400 ∧ 0xd800 + n / 0x400 < 0xdc00 by omega)]
  have hlow : Reads ⟨done, .digits (some (0xd800 + n / 0x400)) []⟩ ls
      ⟨(String.utf8EncodeChar c).reverse ++ done, .plain⟩ := by
    refine reads_fourDigits hl.length hl.hexNumber? ?_
    have hnumber : 0x10000 + 0x400 * (0xd800 + n / 0x400 - 0xd800) + (0xdc00 + n % 0x400 - 0xdc00) =
        c.toNat := by omega
    simp only [pushValue,
      if_pos (show 0xdc00 ≤ 0xdc00 + n % 0x400 ∧ 0xdc00 + n % 0x400 < 0xe000 by omega), push]
    rw [hnumber, Char.ofNat_toNat]
  have hbetween : Reads ⟨done, .surrogate (0xd800 + n / 0x400)⟩ [octet '\\', octet 'u']
      ⟨done, .digits (some (0xd800 + n / 0x400)) []⟩ :=
    .cons rfl <| .cons rfl <| .nil _
  exact .cons rfl <| .cons rfl <| hhigh.append (hbetween.append hlow)

end Quotation

/-- **However a character is written, it is read as itself.** -/
theorem Spells.reads {c : Char} {bs : Bytes} (h : Spells c bs) (done : Bytes) :
    Quotation.Reads ⟨done, .plain⟩ bs ⟨(String.utf8EncodeChar c).reverse ++ done, .plain⟩ := by
  cases h with
  | itself hq hb hc =>
      exact Quotation.reads_of_isPlain (Quotation.isPlain_of_mem_encodeChar hq hb hc) done
  | letter h =>
      obtain ⟨hu, hl⟩ := unescaped?_of_mem_letters h
      exact Quotation.reads_letter hu hl done
  | number h =>
      have hr := Quotation.reads_number h.length h.hexNumber? ((toNat_valid c).imp_right And.left) done
      rwa [Char.ofNat_toNat] at hr
  | surrogates hc hh hl => exact Quotation.reads_surrogates hc hh hl done

/-! ### Texts -/

/-- The ways to write the characters of a text one after the other. -/
inductive SpellsAll : Text → Bytes → Prop where
  | nil : SpellsAll [] []
  | cons {c : Char} {t : Text} {bs bs' : Bytes} (h : Spells c bs) (ht : SpellsAll t bs') :
      SpellsAll (c :: t) (bs ++ bs')

/-- The octets are the text between quotes, in any way to write it. -/
def WritesText (t : Text) (bs : Bytes) : Prop :=
  ∃ inner, SpellsAll t inner ∧ bs = octet '"' :: (inner ++ [octet '"'])

theorem SpellsAll.reads {t : Text} {bs : Bytes} (h : SpellsAll t bs) : ∀ done : Bytes,
    Quotation.Reads ⟨done, .plain⟩ bs ⟨t.encode.reverse ++ done, .plain⟩ := by
  induction h with
  | nil => intro done; exact .nil _
  | @cons c t bs bs' h _ ih =>
      intro done
      have hr := (h.reads done).append (ih _)
      rwa [← List.append_assoc, ← List.reverse_append] at hr

/-- From the opening quote to the closing one. -/
theorem SpellsAll.reads_opened {t : Text} {bs : Bytes} (h : SpellsAll t bs) :
    Quotation.Reads .opened bs ⟨t.encode.reverse, .plain⟩ := by
  have hr := h.reads []
  rwa [List.append_nil] at hr

/-! ### The printed form -/

/-- Characters of ASCII are encoded one by one. -/
theorem encode_of_ascii : ∀ {t : Text}, (∀ c ∈ t, c.toNat < 0x80) → t.encode = t.map octet
  | [],     _ => rfl
  | c :: t, h => by
      have ih := encode_of_ascii fun c' hc' => h c' (List.mem_cons_of_mem c hc')
      rw [Text.encode] at ih ⊢
      rw [List.flatMap_cons, Utf8.encodeChar_of_lt (h c List.mem_cons_self), ih]
      rfl

theorem toNat_digitChar_lt : ∀ d < 16, d.digitChar.toNat < 0x80 := by decide

theorem ascii_digits {n : Nat} (hn : n < 0x20) :
    ∀ c ∈ ['\\', 'u', '0', '0', (n / 16).digitChar, (n % 16).digitChar], c.toNat < 0x80 := by
  have hhigh := toNat_digitChar_lt (n / 16) (by omega)
  have hlow := toNat_digitChar_lt (n % 16) (by omega)
  simp [hhigh, hlow]

theorem FourDigits.of_lt {n : Nat} (hn : n < 0x20) :
    FourDigits [octet '0', octet '0', octet (n / 16).digitChar, octet (n % 16).digitChar] n := by
  have hdigit : ∀ d < 16, IsHexDigit (octet d.digitChar) d := fun d hd => ⟨hd, .inl rfl⟩
  refine ⟨[0, 0, n / 16, n % 16], rfl, ?_, ?_⟩
  · exact .cons (hdigit 0 (by omega)) <| .cons (hdigit 0 (by omega)) <|
      .cons (hdigit _ (by omega)) <| .cons (hdigit _ (by omega)) .nil
  · simp only [List.foldl_cons, List.foldl_nil]
    omega

theorem spells_escaped (c : Char) : Spells c (Text.encode (escaped c)) := by
  unfold escaped
  split
  case h_8 c hq hb _ _ _ _ _ =>
    split
    case isTrue h =>
      rw [encode_of_ascii (ascii_digits h)]
      exact .number (.of_lt h)
    case isFalse h =>
      rw [Text.encode, List.flatMap_singleton]
      exact .itself hq hb (Nat.le_of_not_gt h)
  all_goals exact .letter (by decide)

theorem spellsAll_flatMap_escaped (t : Text) : SpellsAll t (Text.encode (t.flatMap escaped)) := by
  induction t with
  | nil => exact .nil
  | cons c t ih =>
      rw [List.flatMap_cons, Text.encode_append]
      exact .cons (spells_escaped c) ih

/-- The printed form of a text is one of the ways to write it. -/
theorem writesText_quoted (t : Text) : WritesText t (Text.encode (quoted t)) := by
  refine ⟨_, spellsAll_flatMap_escaped t, ?_⟩
  rw [quoted, ← List.singleton_append, Text.encode_append, Text.encode_append]
  rfl

end Imprint.Document
