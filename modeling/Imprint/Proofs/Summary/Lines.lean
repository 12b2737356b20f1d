import Imprint.Proofs.Imprinting.Lines
import Imprint.Summary

/-!
# Summary — what it tells of the metadata

Values and labels may hold each other's words, so where a value ends can be seen from the newlines
alone.  If no value holds a newline, a summary is five lines (`pieces_summary`), and each of them but
the header gives back what it shows of its field.  That is the field's value, except for an absent
version: its line is that of the version `(unchanged)`.  Nothing else is shared by different metadata
(`summary_eq_iff`).
-/

namespace Imprint

namespace Summary

/-- What is shown of a field. -/
def shown (m : Metadata) (f : Field) : Text := (m.value? f).getD unchanged

/-- The line that shows a field. -/
def line (m : Metadata) (f : Field) : Text := f.label ++ shown m f ++ ['\n']

/-- The lines of a summary. -/
def lines (m : Metadata) : List Text := "Updated:\n".toList :: order.map (line m)

theorem flatten_lines (m : Metadata) : (lines m).flatten = m.summary := by
  simp [lines, line, shown, Metadata.summary, pieces, order]

theorem mem_order (f : Field) : f ∈ order := by cases f <;> decide

theorem newline_not_mem_label (f : Field) : '\n' ∉ f.label := by cases f <;> decide

variable {m m' : Metadata}

theorem newline_not_mem_shown (hm : m.Unbroken) (f : Field) : '\n' ∉ shown m f := by
  unfold shown
  cases hv : m.value? f with
  | none => decide
  | some v => exact hm f v hv

theorem isEnded_of_mem_lines (hm : m.Unbroken) {p : Text} (hp : p ∈ lines m) : p.IsEnded := by
  rcases List.mem_cons.1 hp with rfl | hp
  · exact ⟨"Updated:".toList, by decide, by decide⟩
  · obtain ⟨f, -, rfl⟩ := List.mem_map.1 hp
    refine ⟨f.label ++ shown m f, fun h => ?_, rfl⟩
    rcases List.mem_append.1 h with h | h
    · exact newline_not_mem_label f h
    · exact newline_not_mem_shown hm f h

/-- **The lines of a summary.** -/
theorem pieces_summary (hm : m.Unbroken) : m.summary.pieces = lines m := by
  rw [← flatten_lines]
  exact Text.pieces_flatten (Text.lined_of_isEnded fun _ => isEnded_of_mem_lines hm)

/-- The lines show what they show of each field. -/
theorem lines_eq_iff : lines m = lines m' ↔ ∀ f, shown m f = shown m' f := by
  rw [lines, lines, List.cons_inj_right, List.map_inj_left]
  refine forall_congr' fun f => ?_
  simp [mem_order, line]

theorem summary_eq_iff_shown (hm : m.Unbroken) (hm' : m'.Unbroken) :
    m.summary = m'.summary ↔ ∀ f, shown m f = shown m' f := by
  rw [← lines_eq_iff]
  refine ⟨fun h => ?_, fun h => ?_⟩
  · rw [← pieces_summary hm, h, pieces_summary hm']
  · rw [← flatten_lines, h, flatten_lines]

theorem forall_shown_iff :
    (∀ f, shown m f = shown m' f) ↔
      m.buildString = m'.buildString ∧ m.buildDate = m'.buildDate ∧ m.toolchain = m'.toolchain ∧
        m.version.getD unchanged = m'.version.getD unchanged := by
  refine ⟨fun h => ⟨h .buildString, h .buildDate, h .toolchain, h .version⟩, ?_⟩
  rintro ⟨hb, hd, ht, hv⟩ f
  cases f with
  | buildString => exact hb
  | toolchain => exact ht
  | buildDate => exact hd
  | version => exact hv

/-- Versions that are shown alike and are not the same: one is absent, and the other reads as if it
were. -/
theorem getD_unchanged_eq_iff {v v' : Option Text} (hne : v ≠ v') :
    v.getD unchanged = v'.getD unchanged ↔
      (v = none ∧ v' = some unchanged) ∨ (v' = none ∧ v = some unchanged) := by
  cases v with
  | none =>
      cases v' with
      | none => exact absurd rfl hne
      | some w => simp [eq_comm]
  | some w =>
      cases v' with
      | none => simp
      | some w' =>
          have hw : w ≠ w' := fun e => hne (congrArg some e)
          simpa using hw

/-- Metadata that is shown alike and is not the same differs in such a version only. -/
theorem collide_iff :
    (∀ f, shown m f = shown m' f) ∧ m ≠ m' ↔
      (m.version = none ∧ m' = { m with version := some unchanged }) ∨
        (m'.version = none ∧ m = { m' with version := some unchanged }) := by
  rw [forall_shown_iff]
  obtain ⟨b, t, d, v⟩ := m
  obtain ⟨b', t', d', v'⟩ := m'
  simp only [ne_eq, Metadata.mk.injEq]
  by_cases hv : v = v'
  case pos =>
    -- metadata alike in all fields is the same, and no version is both absent and present
    subst hv
    refine iff_of_false ?_ ?_
    · rintro ⟨⟨rfl, rfl, rfl, -⟩, hne⟩
      exact hne ⟨rfl, rfl, rfl, rfl⟩
    · rintro (⟨rfl, -, -, -, h⟩ | ⟨rfl, -, -, -, h⟩) <;> cases h
  case neg =>
    rw [getD_unchanged_eq_iff hv]
    grind

end Summary

namespace Metadata

/-- **A summary tells the metadata.**  Where no value holds a newline, a summary is five lines, each
with its newline, and two summaries are equal just if the metadata agree, an absent version being
the same as `(unchanged)`.  So different metadata share a summary only if they differ in this. -/
theorem summary_eq_iff {m m' : Metadata} (hm : m.Unbroken) (hm' : m'.Unbroken) :
    (m.summary.pieces.length = 5 ∧ ∀ p ∈ m.summary.pieces, p.IsEnded) ∧
    (m.summary = m'.summary ↔
      m.buildString = m'.buildString ∧ m.buildDate = m'.buildDate ∧ m.toolchain = m'.toolchain ∧
        m.version.getD "(unchanged)".toList = m'.version.getD "(unchanged)".toList) ∧
    (m.summary = m'.summary ∧ m ≠ m' ↔
      (m.version = none ∧ m' = { m with version := some "(unchanged)".toList }) ∨
        (m'.version = none ∧ m = { m' with version := some "(unchanged)".toList })) := by
  have hshown := Summary.summary_eq_iff_shown hm hm'
  refine ⟨⟨?_, fun p hp => ?_⟩, hshown.trans Summary.forall_shown_iff, ?_⟩
  · rw [Summary.pieces_summary hm]
    rfl
  · rw [Summary.pieces_summary hm] at hp
    exact Summary.isEnded_of_mem_lines hm hp
  · rw [hshown]
    exact Summary.collide_iff

/-- Values that hold labels of other fields, and the version that reads as if it were absent. -/
theorem summary_eq_iff_unchanged :
    let m : Metadata := ⟨"1\tbuild date:        2".toList, [], "\tbuild string:      ".toList, none⟩
    let m' : Metadata := { m with version := some "(unchanged)".toList }
    (m.Unbroken ∧ m'.Unbroken) ∧ m.summary.pieces.length = 5 ∧ m.summary = m'.summary := by
  intro m m'
  have hm : m.Unbroken := fun f v hv => by cases f <;> cases hv <;> decide
  have hm' : m'.Unbroken := fun f v hv => by cases f <;> cases hv <;> decide
  obtain ⟨⟨hl, -⟩, -, hcollide⟩ := summary_eq_iff hm hm'
  exact ⟨⟨hm, hm'⟩, hl, (hcollide.2 (.inl ⟨rfl, rfl⟩)).1⟩

end Metadata

end Imprint
