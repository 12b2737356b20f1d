import Imprint.Metadata

/-!
# Metadata — the order of the fields

Fields are tried one after another, in the order of `Field.all`.

* Of two fields one is tried first (`before_or_before`), and of the fields of some kind too
  (`exists_first`).
* The fields in front of a field in the list are those tried before it, and those behind it are those
  tried after it (`Before.mem`, `Before.mem_right`).
-/

namespace Imprint.Field

/-- `f` is tried before `g`. -/
def Before (f g : Field) : Prop := List.Sublist [f, g] all

instance (f g : Field) : Decidable (f.Before g) :=
  inferInstanceAs (Decidable (List.Sublist _ _))

theorem Before.asymm {f g : Field} (h : f.Before g) : ¬ g.Before f := by
  cases f <;> cases g <;> first | decide | exact absurd h (by decide)

theorem Before.ne {f g : Field} (h : f.Before g) : f ≠ g := fun e => (e ▸ h).asymm (e ▸ h)

theorem Before.trans {f g k : Field} (h : f.Before g) (h' : g.Before k) : f.Before k := by
  cases f <;> cases g <;> first
    | exact absurd h (by decide)
    | cases k <;> first | decide | exact absurd h' (by decide)

/-- Of two fields, one is tried first. -/
theorem before_or_before {f g : Field} (h : g ≠ f) : g.Before f ∨ f.Before g := by
  cases f <;> cases g <;> first | exact absurd rfl h | decide

/-- The version is tried last. -/
theorem Before.ne_version {f g : Field} (h : f.Before g) : f ≠ .version := by
  rintro rfl
  cases g <;> exact absurd h (by decide)

/-! ### Fields in front and behind -/

theorem before_of_mem_left {f g : Field} {before after : List Field}
    (e : all = before ++ f :: after) (hg : g ∈ before) : g.Before f := by
  have h : List.Sublist ([g] ++ [f]) (before ++ f :: after) :=
    (List.singleton_sublist.2 hg).append (List.singleton_sublist.2 List.mem_cons_self)
  rwa [← e] at h

theorem before_of_mem_right {f g : Field} {before after : List Field}
    (e : all = before ++ f :: after) (hg : g ∈ after) : f.Before g := by
  have h : List.Sublist (f :: [g]) (f :: after) := (List.singleton_sublist.2 hg).cons_cons f
  have h' := h.trans (List.sublist_append_right before (f :: after))
  rwa [← e] at h'

/-- The fields in front of a field are those tried before it. -/
theorem Before.mem {f g : Field} (h : g.Before f) {before after : List Field}
    (e : all = before ++ f :: after) : g ∈ before := by
  have hg : g ∈ before ++ f :: after := e ▸ mem_all g
  rcases List.mem_append.1 hg with hg | hg
  · exact hg
  · rcases List.mem_cons.1 hg with rfl | hg
    · exact absurd rfl h.ne
    · exact absurd h (before_of_mem_right e hg).asymm

/-- The fields behind a field are those tried after it. -/
theorem Before.mem_right {f g : Field} (h : f.Before g) {before after : List Field}
    (e : all = before ++ f :: after) : g ∈ after := by
  have hg : g ∈ before ++ f :: after := e ▸ mem_all g
  rcases List.mem_append.1 hg with hg | hg
  · exact absurd h (before_of_mem_left e hg).asymm
  · rcases List.mem_cons.1 hg with rfl | hg
    · exact absurd rfl h.ne
    · exact hg

/-- Of the fields of some kind, one is tried first. -/
theorem exists_first {p : Field → Prop} {g : Field} (hg : p g) :
    ∃ f, p f ∧ ∀ k, k.Before f → ¬ p k := by
  classical
  obtain ⟨f, hf⟩ : ∃ f, all.find? (fun k => p k) = some f :=
    Option.isSome_iff_exists.1 (List.find?_isSome.2 ⟨g, mem_all g, decide_eq_true hg⟩)
  obtain ⟨hp, before, after, e, hno⟩ := List.find?_eq_some_iff_append.1 hf
  exact ⟨f, of_decide_eq_true hp, fun k hk => by simpa using hno k (hk.mem e)⟩

end Imprint.Field
