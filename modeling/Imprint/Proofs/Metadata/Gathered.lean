import Imprint.BuildNumber
import Imprint.Date
import Imprint.Proofs.Metadata.Opening
import Imprint.Proofs.Text.Digits
import Imprint.Proofs.Toolchain.Release

/-!
# Metadata — what a build's own facts can hold

The metadata of a build is *gathered*: its build string counts some lines, its toolchain is the
release in some answer, its build date is a date in writing.  Only the version may be any text.

* No gathered value but the version holds a newline (`Gathered.newline_not_mem`).
* A build string and a date hold no opening, for want of an equals sign.  A release is
  single-spaced; three of the openings have two spaces side by side, so a release holds none of
  these (`SingleSpaced.not_opening_infix`).  The fourth, that of the build string, it may hold, but
  then without the quote that is written after it (`SingleSpaced.opening_infix_concat_iff`).
* So no value, with the quote after it, holds the opening of a field that is tried later
  (`Gathered.not_later_opening`).
-/

namespace Imprint

/-! ### Numbers and dates -/

/-- A build string is an `x` and hexadecimal digits. -/
theorem mem_buildString {c : Char} {lines : UInt64} (hc : c ∈ buildString lines) :
    c = 'x' ∨ ∃ d < 16, c = d.digitChar := by
  rw [buildString, BuildNumber.toText, List.mem_cons, List.mem_cons] at hc
  rcases hc with rfl | rfl | hc
  · exact .inr ⟨0, by omega, rfl⟩
  · exact .inl rfl
  · exact .inr (mem_leftpad_toDigits (by omega) hc)

/-- A year is a sign and decimal digits. -/
theorem Date.mem_yearText {c : Char} {year : Int} (hc : c ∈ Date.yearText year) :
    (c = '+' ∨ c = '-') ∨ ∃ d < 10, c = d.digitChar := by
  simp only [Date.yearText] at hc
  split at hc
  · exact .inr (mem_leftpad_toDigits (by omega) hc)
  · rcases List.mem_cons.1 hc with rfl | hc
    · split
      · exact .inl (.inl rfl)
      · exact .inl (.inr rfl)
    · exact .inr (mem_leftpad_toDigits (by omega) hc)

/-- A date is signs and decimal digits. -/
theorem Date.mem_toText {c : Char} {d : Date} (hc : c ∈ d.toText) :
    (c = '+' ∨ c = '-') ∨ ∃ k < 10, c = k.digitChar := by
  rw [Date.toText, List.mem_append, List.mem_append, List.mem_cons, List.mem_cons] at hc
  rcases hc with (hc | rfl | hc) | rfl | hc
  · exact Date.mem_yearText hc
  · exact .inl (.inr rfl)
  · exact .inr (mem_leftpad_toDigits (by omega) hc)
  · exact .inl (.inr rfl)
  · exact .inr (mem_leftpad_toDigits (by omega) hc)

theorem not_mem_buildString {c : Char} (hx : c ≠ 'x') (hd : ∀ d < 16, c ≠ Nat.digitChar d)
    (lines : UInt64) : c ∉ buildString lines := fun h => by
  rcases mem_buildString h with e | ⟨d, hlt, e⟩
  · exact hx e
  · exact hd d hlt e

theorem Date.not_mem_toText {c : Char} (hp : c ≠ '+') (hm : c ≠ '-')
    (hd : ∀ d < 10, c ≠ Nat.digitChar d) (date : Date) : c ∉ date.toText := fun h => by
  rcases Date.mem_toText h with (e | e) | ⟨d, hlt, e⟩
  · exact hp e
  · exact hm e
  · exact hd d hlt e

/-! ### Releases -/

/-- Every opening but that of the build string has two spaces side by side. -/
theorem Field.spaces_infix_opening {f : Field} (hf : f ≠ .buildString) :
    [' ', ' '] <:+: f.opening := by
  cases f
  case buildString => exact absurd rfl hf
  all_goals exact Text.occursIn_iff.1 (by decide)

/-- Of the openings, a single-spaced text with a quote after it holds at most that of the build
string. -/
theorem Text.SingleSpaced.not_opening_infix {t : Text} (ht : t.SingleSpaced) {f : Field}
    (hf : f ≠ .buildString) : ¬ f.opening <:+: t ++ ['"'] := fun h =>
  ht.apart ((infix_concat_iff_of_not_mem (List.cons_ne_nil _ _) (by decide)).1
    ((Field.spaces_infix_opening hf).trans h))

/-- The quote after a single-spaced text completes no opening, since a space stands before the
quote in each of them. -/
theorem Text.SingleSpaced.opening_infix_concat_iff {t : Text} (ht : t.SingleSpaced) (f : Field) :
    f.opening <:+: t ++ ['"'] ↔ f.opening <:+: t := by
  -- an opening at the end would leave its last space at the end of `t`
  have hno : ¬ f.opening <:+ t ++ ['"'] := by
    rintro ⟨s, e⟩
    have hf : f.opening = (f.identifier ++ List.replicate (11 - f.identifier.length) ' ' ++
        [' ', '=', ' ']) ++ ['"'] := by simp [Field.opening]
    rw [hf, ← List.append_assoc] at e
    have ht' : t = _ := (List.append_inj_left' e rfl).symm
    exact ht.last (by simp [ht'])
  rw [List.infix_concat_iff, or_iff_right hno]

/-! ### Gathered metadata -/

namespace Metadata

/-- The metadata of a build: from the number of lines in its log, the toolchain's answer and the
date. -/
def gather (lines : UInt64) (answer : Text) (date : Date) (version : Option Text) : Metadata where
  buildString := Imprint.buildString lines
  toolchain   := Toolchain.release answer
  buildDate   := date.toText
  version     := version

/-- Metadata of some build; its version may be any. -/
structure Gathered (m : Metadata) : Prop where
  buildString : ∃ lines : UInt64, m.buildString = Imprint.buildString lines
  toolchain   : ∃ answer : Text, m.toolchain = Toolchain.release answer
  buildDate   : ∃ date : Date, m.buildDate = date.toText

theorem gathered_gather (lines : UInt64) (answer : Text) (date : Date) (version : Option Text) :
    (gather lines answer date version).Gathered :=
  ⟨⟨lines, rfl⟩, ⟨answer, rfl⟩, ⟨date, rfl⟩⟩

namespace Gathered

variable {m : Metadata}

theorem singleSpaced (h : m.Gathered) : m.toolchain.SingleSpaced := by
  obtain ⟨answer, e⟩ := h.toolchain
  rw [e]
  exact Toolchain.singleSpaced_release answer

/-- No gathered value but the version holds a newline. -/
theorem newline_not_mem (h : m.Gathered) {f : Field} (hf : f ≠ .version) {v : Text}
    (hv : m.value? f = some v) : '\n' ∉ v := by
  cases f with
  | buildString =>
      cases hv
      obtain ⟨lines, e⟩ := h.buildString
      rw [e]
      exact not_mem_buildString (by decide) (by decide) lines
  | toolchain => cases hv; exact h.singleSpaced.newline_not_mem
  | buildDate =>
      cases hv
      obtain ⟨date, e⟩ := h.buildDate
      rw [e]
      exact Date.not_mem_toText (by decide) (by decide) (by decide) date
  | version => exact absurd rfl hf

/-- A gathered build string, with the quote after it, holds no opening. -/
theorem not_infix_buildString (h : m.Gathered) (g : Field) :
    ¬ g.opening <:+: m.buildString ++ ['"'] := by
  obtain ⟨lines, e⟩ := h.buildString
  have hn : '=' ∉ m.buildString := e ▸ not_mem_buildString (by decide) (by decide) lines
  exact Text.not_infix_of_not_mem g.equals_mem_opening (by simp [hn])

/-- A gathered build date, with the quote after it, holds no opening. -/
theorem not_infix_buildDate (h : m.Gathered) (g : Field) :
    ¬ g.opening <:+: m.buildDate ++ ['"'] := by
  obtain ⟨date, e⟩ := h.buildDate
  have hn : '=' ∉ m.buildDate := e ▸ Date.not_mem_toText (by decide) (by decide) (by decide) date
  exact Text.not_infix_of_not_mem g.equals_mem_opening (by simp [hn])

/-- No gathered value, with the quote after it, holds the opening of a field tried later. -/
theorem not_later_opening (h : m.Gathered) {f g : Field} (hfg : f.Before g) {v : Text}
    (hv : m.value? f = some v) : ¬ g.opening <:+: v ++ ['"'] := by
  cases f with
  | buildString => cases hv; exact h.not_infix_buildString g
  | toolchain =>
      cases hv
      refine h.singleSpaced.not_opening_infix ?_
      rintro rfl
      exact absurd hfg (by decide)
  | buildDate => cases hv; exact h.not_infix_buildDate g
  | version => exact absurd rfl hfg.ne_version

end Gathered

end Metadata

end Imprint
