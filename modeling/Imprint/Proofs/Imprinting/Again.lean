import Imprint.Proofs.Imprinting.Gathered

/-!
# Imprinting — a second time

Metadata is *plain* if no value holds a newline or, with the quote after it, the opening of another
field.  A line that plain metadata has replaced declares the same field as before, and nothing else;
so whatever is imprinted next does with it what it would have done with the line as it was.

* `imprint_again`: after plain metadata, imprinting gives what it gives without it, both the text
  and the number of replaced lines.
* `imprint_idempotent_iff`: gathered metadata can be imprinted again without effect, on every text,
  exactly if it is plain; what this asks of the release and of the version is spelled out.
-/

namespace Imprint

/-- The opening of a field is no part of another's. -/
theorem Field.not_opening_infix_opening {f g : Field} (h : g ≠ f) : ¬ g.opening <:+: f.opening :=
  fun hi => h (opening_injective (hi.eq_of_length (by rw [length_opening, length_opening])))

namespace Metadata

variable {m m₁ m₂ : Metadata} {line v : Text} {f : Field}

/-! ### Plain metadata -/

/-- No value holds a newline or, with the quote after it, the opening of another field. -/
structure Plain (m : Metadata) : Prop where
  unbroken : m.Unbroken
  apart    : ∀ f v, m.value? f = some v → ∀ g, g ≠ f → ¬ g.opening <:+: v ++ ['"']

/-- In plain metadata the declared field always has the last word. -/
theorem Plain.imprintLine_eq (h : m.Plain) (hd : m.declared? line = some f)
    (hv : m.value? f = some v) : m.imprintLine line = some (f.line v) :=
  imprintLine_eq_line hd hv fun g hg _ => h.apart f v hv g hg.ne.symm

/-- The declaration of a plain value declares its own field and no other. -/
theorem Plain.declared?_line (h : m₁.Plain) (hv : m₁.value? f = some v)
    (hf : (m₂.value? f).isSome) : m₂.declared? (f.line v) = some f := by
  refine declared?_eq_some_iff.2 ⟨⟨hf, f.opening_infix_line v⟩, fun g hg hd => ?_⟩
  exact h.apart f v hv g hg.ne ((Field.opening_infix_line_iff hg.ne v).1 hd.2)

/-- Gathered metadata is plain if neither its release nor its version is in the way. -/
theorem Gathered.plain (h : m.Gathered)
    (ht : ¬ Field.buildString.opening <:+: m.toolchain)
    (hv : ∀ v, m.version = some v →
      '\n' ∉ v ∧ ∀ g : Field, g ≠ .version → ¬ g.opening <:+: v ++ ['"']) : m.Plain where
  unbroken f v hf := by
    by_cases hfv : f = .version
    · subst hfv; exact (hv v hf).1
    · exact h.newline_not_mem hfv hf
  apart f v hf g hg := by
    cases f with
    | buildString => cases hf; exact h.not_infix_buildString g
    | toolchain =>
        cases hf
        by_cases hgb : g = .buildString
        · subst hgb; rwa [h.singleSpaced.opening_infix_concat_iff]
        · exact h.singleSpaced.not_opening_infix hgb
    | buildDate => cases hf; exact h.not_infix_buildDate g
    | version => exact (hv v hf).2 g hg

/-! ### After plain metadata -/

section After

variable (h : m₁.Plain) (hv : m₁.version.isSome → m₂.version.isSome)
include h hv

omit h in
theorem Declares.of_version (hd : m₁.Declares line f) : m₂.Declares line f := by
  refine ⟨?_, hd.2⟩
  by_cases hf : f = .version
  · subst hf; exact hv hd.1
  · exact m₂.isSome_value? hf

/-- A line that plain metadata was imprinted on declares what it did before. -/
theorem Plain.declared?_lineAfter (line : Text) :
    m₂.declared? (m₁.lineAfter line) = m₂.declared? line := by
  cases hd : m₁.declared? line with
  | none => rw [lineAfter_eq_self (declared?_eq_none_iff.1 hd)]
  | some f =>
      obtain ⟨hf, hb⟩ := declared?_eq_some_iff.1 hd
      have hf₂ := hf.of_version hv
      obtain ⟨v, hvf⟩ := exists_value? hd
      rw [lineAfter_eq_of_imprintLine (h.imprintLine_eq hd hvf), h.declared?_line hvf hf₂.1]
      -- what is tried before `f` is not the version, so that `m₁` has it too
      refine (declared?_eq_some_iff.2 ⟨hf₂, fun g hg hgd => hb g hg ⟨?_, hgd.2⟩⟩).symm
      exact m₁.isSome_value? hg.ne_version

theorem Plain.imprintLine_lineAfter (line : Text) :
    m₂.imprintLine (m₁.lineAfter line) = m₂.imprintLine line :=
  imprintLine_congr (h.declared?_lineAfter hv line)

theorem Plain.lineAfter_lineAfter (line : Text) :
    m₂.lineAfter (m₁.lineAfter line) = m₂.lineAfter line := by
  show (m₂.imprintLine (m₁.lineAfter line)).getD (m₁.lineAfter line) =
    (m₂.imprintLine line).getD line
  rw [h.imprintLine_lineAfter hv line]
  cases hr : m₂.imprintLine line with
  | some r => rfl
  | none =>
      have hno : ∀ f, ¬ m₁.Declares line f := fun f hd =>
        imprintLine_eq_none_iff.1 hr f (hd.of_version hv)
      exact lineAfter_eq_self hno

theorem Plain.text_imprint_imprint (t : Text) :
    (m₂.imprint (m₁.imprint t).text).text = (m₂.imprint t).text := by
  rw [imprint_text m₂ (m₁.imprint t).text, pieces_imprint h.unbroken, imprint_text m₂ t,
    List.map_map]
  exact congrArg _ (List.map_congr_left fun p _ => h.lineAfter_lineAfter hv p)

theorem Plain.replaced_imprint_imprint (t : Text) :
    (m₂.imprint (m₁.imprint t).text).replaced = (m₂.imprint t).replaced := by
  rw [imprint_replaced, pieces_imprint h.unbroken, imprint_replaced, List.countP_map]
  refine List.countP_congr fun p _ => ?_
  rw [Function.comp_apply, h.imprintLine_lineAfter hv p]

end After

/-- **The last imprinting wins.**  Metadata `m₁` whose values hold no newline and, with the quote
after them, no opening of another field leaves no trace once `m₂` is imprinted, as long as `m₂` has
a version if `m₁` has one: the text and the number of replaced lines are what they are without
`m₁`.  The values of `m₂` may be any. -/
theorem imprint_again (hn : ∀ f v, m₁.value? f = some v → '\n' ∉ v)
    (ho : ∀ f v, m₁.value? f = some v → ∀ g, g ≠ f → ¬ g.opening <:+: v ++ ['"'])
    (hv : m₁.version.isSome → m₂.version.isSome) (t : Text) :
    (m₂.imprint (m₁.imprint t).text).text = (m₂.imprint t).text ∧
      (m₂.imprint (m₁.imprint t).text).replaced = (m₂.imprint t).replaced :=
  have h : m₁.Plain := ⟨hn, ho⟩
  ⟨h.text_imprint_imprint hv t, h.replaced_imprint_imprint hv t⟩

/-- The second metadata's own values set each other off, and the last line is not ended. -/
theorem imprint_again_unended :
    let m₁ := gather 1 "go version go1.21.0 linux/amd64\n".toList ⟨2024, 3, 9, by decide⟩ none
    let m₂ : Metadata := ⟨"x".toList, Field.buildDate.opening, Field.version.opening, some "y\nz".toList⟩
    let t := "goVersion   = 1".toList ++ Field.toolchain.opening ++ Field.version.opening
    (m₁.Unbroken ∧ (∀ f v, m₁.value? f = some v → ∀ g, g ≠ f → ¬ g.opening <:+: v ++ ['"']) ∧
      (m₁.version.isSome → m₂.version.isSome)) ∧
    (m₂.imprint (m₁.imprint t).text).text = (m₂.imprint t).text ∧
      (m₂.imprint (m₁.imprint t).text).replaced = (m₂.imprint t).replaced :=
  have h : Plain (gather 1 _ _ none) := (gathered_gather 1 _ _ none).plain
    (fun h => absurd (Text.occursIn_iff.2 h) (by decide)) (fun _ hv => by cases hv)
  ⟨⟨h.unbroken, h.apart, by decide⟩, imprint_again h.unbroken h.apart (by decide) _⟩

/-! ### Metadata that has no effect a second time -/

/-- The opening of a field, as a text, becomes the declaration of its value. -/
theorem Gathered.imprint_opening (h : m.Gathered) (hv : m.value? f = some v) :
    (m.imprint f.opening).text = f.line v := by
  have hd : m.declared? f.opening = some f :=
    declared?_eq_some_iff.2 ⟨⟨Option.isSome_iff_exists.2 ⟨v, hv⟩, List.infix_rfl⟩,
      fun g hg hgd => Field.not_opening_infix_opening hg.ne hgd.2⟩
  rw [imprint_text, Text.pieces_of_not_mem f.opening_ne_nil f.newline_not_mem_opening,
    List.map_singleton, List.flatten_singleton, h.lineAfter_eq hd hv]

/-- Where another field is tried before `f` and stands in its declaration, the declaration does not
stay. -/
theorem Gathered.lineAfter_ne (h : m.Gathered) {g : Field} (hg : g.Before f)
    (ho : g.opening <:+: f.line v) : m.lineAfter (f.line v) ≠ f.line v := by
  intro e
  have hgd : m.Declares (f.line v) g := ⟨m.isSome_value? hg.ne_version, ho⟩
  obtain ⟨k, w, hk, hw⟩ := hgd.exists_declared?
  rw [h.lineAfter_eq hk hw, ← List.append_nil (k.line w)] at e
  obtain rfl := Field.eq_of_line_append e
  exact (declared?_eq_some_iff.1 hk).2 g hg hgd

theorem imprint_text_ne_nil (m : Metadata) {t : Text} (ht : t ≠ []) : (m.imprint t).text ≠ [] := by
  rw [imprint_text]
  cases hp : t.pieces with
  | nil => exact absurd (by rw [← t.flatten_pieces, hp]; rfl) ht
  | cons p ps =>
      have hne : m.lineAfter p ≠ [] := by
        rcases m.lineAfter_cases p with ⟨e, -⟩ | ⟨f, w, -, e⟩
        · rw [e]
          exact (Text.lined_pieces t).ne_nil_of_mem (hp ▸ List.mem_cons_self)
        · rw [e]
          exact List.cons_ne_nil _ _
      simp [hne]

/-- A declaration of several lines grows when it is imprinted again. -/
theorem Gathered.imprint_line_ne (h : m.Gathered) (hv : m.value? f = some v) (hn : '\n' ∈ v) :
    (m.imprint (f.line v)).text ≠ f.line v := by
  intro e
  obtain ⟨a, b, rfl, ha⟩ := List.eq_append_cons_of_mem hn
  -- the first line of the declaration, and what follows it
  let p : Text := '\t' :: (f.opening ++ a) ++ ['\n']
  let q : Text := b ++ ['"', '\n']
  have hline : f.line (a ++ '\n' :: b) = p ++ q := by simp [Field.line, p, q]
  have hp : Text.IsEnded p :=
    ⟨_, by simpa [f.newline_not_mem_opening] using ha, rfl⟩
  have hd : m.Declares p f :=
    ⟨Option.isSome_iff_exists.2 ⟨_, hv⟩, ['\t'], a ++ ['\n'], by simp [p]⟩
  obtain ⟨k, w, hk, hw⟩ := hd.exists_declared?
  have hgrown : (m.imprint (p ++ q)).text = k.line w ++ (m.imprint q).text := by
    rw [imprint_text, Text.pieces_ended_append hp, List.map_cons, List.flatten_cons,
      h.lineAfter_eq hk hw, ← imprint_text]
  rw [hline, hgrown, ← hline] at e
  obtain rfl := Field.eq_of_line_append e
  obtain rfl : w = a ++ '\n' :: b := Option.some.inj (hw.symm.trans hv)
  exact m.imprint_text_ne_nil (t := q) (by simp [q]) (List.append_right_eq_self.1 e)

/-- Metadata that has no effect a second time on the opening of a field is plain there. -/
theorem Gathered.plain_of_idempotent (h : m.Gathered)
    (hi : ∀ t : Text, m.imprint (m.imprint t).text = m.imprint t) : m.Plain := by
  have hagain : ∀ f v, m.value? f = some v → (m.imprint (f.line v)).text = f.line v :=
    fun f v hv => by rw [← h.imprint_opening hv, hi]
  have hunbroken : m.Unbroken := fun f v hv hn => h.imprint_line_ne hv hn (hagain f v hv)
  refine ⟨hunbroken, fun f v hv g hg ho => ?_⟩
  -- a field tried earlier would take the declaration; one tried later is not in the value
  rcases Field.before_or_before hg with hb | hb
  · have hstays := hagain f v hv
    rw [imprint_text, Text.pieces_of_isEnded (Field.isEnded_line (hunbroken f v hv)),
      List.map_singleton, List.flatten_singleton] at hstays
    exact h.lineAfter_ne hb ((Field.opening_infix_line_iff hg v).2 ho) hstays
  · exact h.not_later_opening hb hv ho

/-- **Imprinting again.**  Gathered metadata has no effect a second time, whatever the text, exactly
if the release does not hold the opening of the build string, and the version, if there is one,
holds no newline and, with the quote after it, no opening of another field. -/
theorem imprint_idempotent_iff (h : m.Gathered) :
    (∀ t : Text, m.imprint (m.imprint t).text = m.imprint t) ↔
      ¬ Field.buildString.opening <:+: m.toolchain ∧
        ∀ v, m.version = some v →
          '\n' ∉ v ∧ ∀ g : Field, g ≠ .version → ¬ g.opening <:+: v ++ ['"'] := by
  constructor
  · intro hi
    have hp := h.plain_of_idempotent hi
    refine ⟨fun ht => ?_, fun v hv => ⟨hp.unbroken .version v hv, hp.apart .version v hv⟩⟩
    exact hp.apart .toolchain m.toolchain rfl .buildString (by decide)
      ((h.singleSpaced.opening_infix_concat_iff _).2 ht)
  · rintro ⟨ht, hv⟩ t
    have hp := h.plain ht hv
    exact Imprinted.ext (hp.text_imprint_imprint id t) (hp.replaced_imprint_imprint id t)

/-- A version that is cut short within another field's opening: the quote after it completes the
opening, and the second time the line is taken for that field's. -/
theorem imprint_not_idempotent_of_cut_opening :
    let m := gather 297 "go version go1.21.0 linux/amd64\n".toList ⟨2024, 3, 9, by decide⟩
      (some "see buildDate   = ".toList)
    m.Gathered ∧ ¬ ∀ t : Text, m.imprint (m.imprint t).text = m.imprint t := by
  refine ⟨gathered_gather .., fun hi => ?_⟩
  have hv := ((imprint_idempotent_iff (gathered_gather ..)).1 hi).2 _ rfl
  exact hv.2 .buildDate (by decide) (Text.occursIn_iff.1 (by decide))

end Metadata

end Imprint
