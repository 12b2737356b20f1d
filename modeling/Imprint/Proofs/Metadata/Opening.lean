import Imprint.Proofs.Metadata.Order
import Imprint.Proofs.Text.Lines
import Imprint.Proofs.Text.Phrase

/-!
# Metadata — which openings a declaration holds

The line that declares a value is a tab, the field's opening, the value, a quote and a newline.
No other field's opening can begin in the tab or in the opening, and none ends with the newline; so
all that decides is the value with the quote after it.

* `Field.opening_infix_line_iff`: the opening of *another* field stands in the line exactly if it
  stands in the value followed by the quote.
* `Field.opening_apart_from_frame`: and it stands at the same places there, behind the tab and the
  field's opening and before the newline.
* `Field.isEnded_line`: the line of a value without a newline is one line.
* `Field.eq_of_line_append`: the field of a line can be read off the line, whatever follows it.
-/

namespace Imprint.Field

/-! ### Openings -/

theorem length_opening (f : Field) : f.opening.length = 15 := by cases f <;> decide

theorem opening_ne_nil (f : Field) : f.opening ≠ [] := by cases f <;> decide

theorem newline_not_mem_opening (f : Field) : '\n' ∉ f.opening := by cases f <;> decide

theorem equals_mem_opening (f : Field) : '=' ∈ f.opening := by cases f <;> decide

/-- Openings are told apart by their identifiers. -/
theorem opening_injective {f g : Field} (h : f.opening = g.opening) : f = g := by
  cases f <;> cases g <;> first | rfl | exact absurd h (by decide)

/-- Wherever the opening of a field stands, that of another cannot begin in it or in the tab before
it. -/
theorem mayBegin_opening {f g : Field} (h : g ≠ f) :
    Text.mayBegin g.opening ('\t' :: f.opening) = false := by
  cases f <;> cases g <;> first | exact absurd rfl h | decide

/-! ### Declarations -/

/-- A declaration holds the opening of its field. -/
theorem opening_infix_line (f : Field) (v : Text) : f.opening <:+: f.line v :=
  ⟨['\t'], v ++ ['"', '\n'], by simp [line]⟩

/-- A declaration is its value and the closing quote in a frame: the tab and the opening in front,
and the newline behind. -/
theorem line_eq_frame (f : Field) (v : Text) :
    f.line v = ('\t' :: f.opening) ++ ((v ++ ['"']) ++ ['\n']) := by
  simp [line]

/-- **What else a declaration may hold.**  The opening of another field stands in the line exactly
if it stands in the value followed by the closing quote. -/
theorem opening_infix_line_iff {f g : Field} (h : g ≠ f) (v : Text) :
    g.opening <:+: f.line v ↔ g.opening <:+: v ++ ['"'] := by
  rw [line_eq_frame, Text.infix_append_iff (mayBegin_opening h),
    Text.infix_concat_iff_of_not_mem g.opening_ne_nil g.newline_not_mem_opening]

/-- Wherever the opening of another field stands in a declaration, the frame is around it. -/
theorem exists_of_line_eq {f g : Field} (h : g ≠ f) {v before after : Text}
    (e : f.line v = before ++ g.opening ++ after) :
    ∃ b a, before = ('\t' :: f.opening) ++ b ∧ after = a ++ ['\n'] ∧
      v ++ ['"'] = b ++ g.opening ++ a := by
  rw [line_eq_frame] at e
  obtain ⟨b, hb, e'⟩ := Text.exists_front_of_mayBegin_eq_false (mayBegin_opening h) e
  obtain ⟨a, ha, hv⟩ :=
    Text.exists_concat_of_not_mem g.opening_ne_nil g.newline_not_mem_opening e'
  exact ⟨b, a, hb, ha, hv⟩

/-- **The frame of a declaration is no part of another opening.**  The search for the opening of
another field finds it in the line exactly if it finds it in the value followed by the closing
quote.  The places where it stands are the same ones too: in the line, the tab and the field's own
opening are all in front of the place, and the newline is behind it. -/
theorem opening_apart_from_frame {f g : Field} (h : g ≠ f) (v : Text) :
    Text.occursIn g.opening (f.line v) = Text.occursIn g.opening (v ++ ['"']) ∧
      ∀ before after, f.line v = before ++ g.opening ++ after ↔
        ∃ b a, before = ('\t' :: f.opening) ++ b ∧ after = a ++ ['\n'] ∧
          v ++ ['"'] = b ++ g.opening ++ a := by
  refine ⟨?_, fun before after => ⟨exists_of_line_eq h, ?_⟩⟩
  · rw [Bool.eq_iff_iff, Text.occursIn_iff, Text.occursIn_iff]
    exact opening_infix_line_iff h v
  · rintro ⟨b, a, rfl, rfl, hv⟩
    rw [line_eq_frame, hv]
    simp only [List.append_assoc]

/-- The closing quote completes the opening of the version, which the value alone does not hold; so
that is the one place where it stands. -/
theorem opening_apart_from_frame_completed :
    let v := "go1.21\nversion     = ".toList
    Field.version ≠ .toolchain ∧ Text.occursIn Field.version.opening v = false ∧
      Text.occursIn Field.version.opening (Field.toolchain.line v) = true ∧
      ∀ before after, Field.toolchain.line v = before ++ Field.version.opening ++ after ↔
        before = "\tgoVersion   = \"go1.21\n".toList ∧ after = ['\n'] := by
  intro v
  have hne : Field.version ≠ .toolchain := by decide
  have hv : Text.occursIn Field.version.opening v = false := by decide
  have hq : v ++ ['"'] = "go1.21\n".toList ++ Field.version.opening := by decide
  have hin : Text.occursIn Field.version.opening (v ++ ['"']) = true := by decide
  obtain ⟨hoccurs, hplaces⟩ := opening_apart_from_frame hne v
  refine ⟨hne, hv, hoccurs.trans hin, fun before after => (hplaces before after).trans ⟨?_, ?_⟩⟩
  · rintro ⟨b, a, rfl, rfl, e⟩
    rcases List.eq_nil_or_concat a with rfl | ⟨a, c, rfl⟩
    · rw [List.append_nil, hq] at e
      rw [← List.append_cancel_right e]
      exact ⟨rfl, rfl⟩
    · -- the closing quote would be behind the opening, which would stand in the value then
      rw [List.concat_eq_append, ← List.append_assoc] at e
      have hin : Field.version.opening <:+: v := ⟨b, a, (List.append_inj_left' e rfl).symm⟩
      rw [Text.occursIn_iff.2 hin] at hv
      cases hv
  · rintro ⟨rfl, rfl⟩
    exact ⟨"go1.21\n".toList, [], rfl, rfl, by rw [hq, List.append_nil]⟩

/-- The declaration of a value without a newline is one line. -/
theorem isEnded_line {f : Field} {v : Text} (hv : '\n' ∉ v) : Text.IsEnded (f.line v) := by
  refine ⟨'\t' :: (f.opening ++ v ++ ['"']), ?_, by simp [line]⟩
  have ho := f.newline_not_mem_opening
  simp [ho, hv]

/-- The field of a declaration is known from how the line begins. -/
theorem eq_of_line_append {f g : Field} {v w r : Text} (h : g.line w ++ r = f.line v) : g = f := by
  simp only [line, List.cons_append, List.append_assoc, List.cons.injEq, true_and] at h
  exact opening_injective (List.append_inj_left h (by rw [length_opening, length_opening]))

end Imprint.Field
