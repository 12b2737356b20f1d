import Imprint.Proofs.Imprinting.Gathered

/-!
# Imprinting — with a version and without

The version is tried last, on a line as the other fields have left it.  No gathered value sets the
version off, so it is declared only where the line itself declares it and no other field: on a
*version line*.  There metadata with a version puts its declaration, and metadata without one leaves
the line alone; on every other line the two do the same.

* `Gathered.imprintLine_eq_of_isVersionLine`, `Gathered.imprintLine_eq_of_not_isVersionLine`: what
  a version changes on one line.
* `Gathered.addsVersion`: what it changes in a text and in the number of replaced lines.
-/

namespace Imprint.Metadata

variable {m : Metadata} {line : Text} {f : Field}

/-- The opening of the version stands in the line, and no other opening does. -/
def IsVersionLine (line : Text) : Prop :=
  Field.version.opening <:+: line ∧ ∀ g : Field, g ≠ .version → ¬ g.opening <:+: line

instance (line : Text) : Decidable (IsVersionLine line) :=
  decidable_of_iff (Text.occursIn Field.version.opening line = true ∧
      ∀ g ∈ Field.all, g ≠ .version → ¬ Text.occursIn g.opening line = true)
    (by simp only [IsVersionLine, Text.occursIn_iff, Field.mem_all, true_implies])

/-- The metadata with a version. -/
def withVersion (m : Metadata) (v : Text) : Metadata := { m with version := some v }

theorem value?_withVersion (m : Metadata) (v : Text) (hf : f ≠ .version) :
    (m.withVersion v).value? f = m.value? f := by
  cases f
  case version => exact absurd rfl hf
  all_goals rfl

theorem Gathered.withVersion (h : m.Gathered) (v : Text) : (m.withVersion v).Gathered :=
  ⟨h.buildString, h.toolchain, h.buildDate⟩

/-- A version adds nothing to the other fields that a line declares. -/
theorem declares_withVersion_iff (v : Text) (hf : f ≠ .version) :
    (m.withVersion v).Declares line f ↔ m.Declares line f := by
  rw [Declares, value?_withVersion m v hf, Declares]

theorem Declares.not_isVersionLine (hd : m.Declares line f) (hf : f ≠ .version) :
    ¬ IsVersionLine line := fun h => h.2 f hf hd.2

/-! ### One line -/

/-- A version line becomes the declaration of the version. -/
theorem Gathered.imprintLine_eq_of_isVersionLine (h : m.Gathered) (v : Text)
    (hl : IsVersionLine line) : (m.withVersion v).imprintLine line = some (Field.version.line v) := by
  have hd : (m.withVersion v).declared? line = some .version :=
    declared?_eq_some_iff.2 ⟨⟨rfl, hl.1⟩, fun g hg hgd => hl.2 g hg.ne_version hgd.2⟩
  exact (h.withVersion v).imprintLine_eq hd rfl

section Without

variable (hn : m.version = none)
include hn

theorem ne_version_of_declares (hd : m.Declares line f) : f ≠ .version := by
  rintro rfl
  have hsome : m.version.isSome := hd.1
  rw [hn] at hsome
  cases hsome

/-- Without a version, a version line is left alone. -/
theorem imprintLine_eq_none_of_isVersionLine (hl : IsVersionLine line) :
    m.imprintLine line = none :=
  imprintLine_eq_none_iff.2 fun _ hd => hd.not_isVersionLine (ne_version_of_declares hn hd) hl

/-- Every other line becomes what it becomes without the version. -/
theorem Gathered.imprintLine_eq_of_not_isVersionLine (h : m.Gathered) (v : Text)
    (hl : ¬ IsVersionLine line) :
    (m.withVersion v).imprintLine line = m.imprintLine line := by
  cases hd : m.declared? line with
  | some f =>
      -- the field is declared with the version too, and has the last word both times
      obtain ⟨hf, hb⟩ := declared?_eq_some_iff.1 hd
      have hne := ne_version_of_declares hn hf
      obtain ⟨w, hw⟩ := exists_value? hd
      have hd' : (m.withVersion v).declared? line = some f :=
        declared?_eq_some_iff.2 ⟨(declares_withVersion_iff v hne).2 hf, fun g hg hgd =>
          hb g hg ((declares_withVersion_iff v hg.ne_version).1 hgd)⟩
      have hw' : (m.withVersion v).value? f = some w := by rw [value?_withVersion m v hne, hw]
      rw [h.imprintLine_eq hd hw, (h.withVersion v).imprintLine_eq hd' hw']
  | none =>
      have hno := declared?_eq_none_iff.1 hd
      have hother : ∀ g : Field, g ≠ .version → ¬ g.opening <:+: line := fun g hg ho =>
        hno g ⟨m.isSome_value? hg, ho⟩
      rw [imprintLine_eq_none hd, imprintLine_eq_none_iff]
      intro g hgd
      by_cases hg : g = .version
      · subst hg
        exact hl ⟨hgd.2, hother⟩
      · exact hother g hg hgd.2

end Without

/-! ### A text -/

/-- What the version `v` adds to the imprinting of a text: its declaration, on the version lines and
nowhere else, where without it the lines are kept to the last character. -/
structure AddsVersion (m m' : Metadata) (v text : Text) : Prop where
  text_without : (m.imprint text).text = (text.pieces.map m.lineAfter).flatten
  text_with    : (m'.imprint text).text = (text.pieces.map m'.lineAfter).flatten
  versionLine  : ∀ line ∈ text.pieces, IsVersionLine line →
    m.lineAfter line = line ∧ m'.lineAfter line = Field.version.line v
  otherLine    : ∀ line ∈ text.pieces, ¬ IsVersionLine line → m'.lineAfter line = m.lineAfter line
  replaced     : (m'.imprint text).replaced =
    (m.imprint text).replaced + text.pieces.countP fun line => IsVersionLine line

/-- Of lines, those that are replaced only with the version are the version lines. -/
theorem Gathered.countP_withVersion (h : m.Gathered) (hn : m.version = none) (v : Text)
    (lines : List Text) :
    lines.countP (fun line => ((m.withVersion v).imprintLine line).isSome) =
      lines.countP (fun line => (m.imprintLine line).isSome) +
        lines.countP fun line => IsVersionLine line := by
  induction lines with
  | nil => rfl
  | cons line lines ih =>
      rw [List.countP_cons, List.countP_cons, List.countP_cons, ih]
      by_cases hl : IsVersionLine line
      · rw [h.imprintLine_eq_of_isVersionLine v hl, imprintLine_eq_none_of_isVersionLine hn hl]
        simp [hl, Nat.add_assoc]
      · rw [h.imprintLine_eq_of_not_isVersionLine hn v hl]
        simp only [hl, decide_false, Bool.false_eq_true, if_false]
        omega

/-- **What a version adds.** -/
theorem Gathered.addsVersion (h : m.Gathered) (hn : m.version = none) (v text : Text) :
    AddsVersion m (m.withVersion v) v text where
  text_without := imprint_text m text
  text_with := imprint_text (m.withVersion v) text
  versionLine line _ hl :=
    ⟨by rw [lineAfter, imprintLine_eq_none_of_isVersionLine hn hl, Option.getD_none],
      lineAfter_eq_of_imprintLine (h.imprintLine_eq_of_isVersionLine v hl)⟩
  otherLine line _ hl := by
    rw [lineAfter, h.imprintLine_eq_of_not_isVersionLine hn v hl, lineAfter]
  replaced := h.countP_withVersion hn v text.pieces

end Imprint.Metadata
