import Imprint.Proofs.Imprinting.Declared

/-!
# Imprinting — one replacement after another

Where a field replaces a line, its declaration takes the line's place for the fields tried after it,
and the first of these whose opening stands in the declaration replaces it in turn: the one field
*sets off* the other.  With values that may be any text this can go on until a declaration is
reached that sets off nothing.  `LeadsTo` is such a chain, from its first field to its last.

* A field leads to one field and no other (`exists_leadsTo`, `LeadsTo.unique`).
* `LeadsTo.foldl_declare`: trying the fields after a field ends with the declaration of the field
  that it leads to.
* `imprintLine_chain`: so the declared field of a line decides what becomes of it, whatever the
  values are.
-/

namespace Imprint.Metadata

variable {m : Metadata} {line v w : Text} {f g k : Field}

/-! ### Chains -/

/-- Of the fields tried after `f`, the declaration of `f` declares `g` first. -/
def SetsOff (m : Metadata) (f g : Field) : Prop :=
  f.Before g ∧ ∃ v, m.value? f = some v ∧ m.Declares (f.line v) g ∧
    ∀ k, f.Before k → k.Before g → ¬ m.Declares (f.line v) k

/-- From `f` on one field sets off the next, and `k` sets off none. -/
inductive LeadsTo (m : Metadata) : Field → Field → Prop where
  | stop {f : Field} (h : ∀ g, ¬ m.SetsOff f g) : LeadsTo m f f
  | step {f g k : Field} (h : m.SetsOff f g) (t : LeadsTo m g k) : LeadsTo m f k

theorem SetsOff.unique (h : m.SetsOff f g) (h' : m.SetsOff f k) : g = k := by
  obtain ⟨hg, v, hv, hdg, hno⟩ := h
  obtain ⟨hk, v', hv', hdk, hno'⟩ := h'
  obtain rfl : v = v' := Option.some.inj (hv.symm.trans hv')
  by_contra hne
  rcases Field.before_or_before hne with hb | hb
  · exact hno' g hg hb hdg
  · exact hno k hk hb hdk

/-- A declaration that declares a field tried later sets off some field. -/
theorem exists_setsOff (hv : m.value? f = some v) (hfg : f.Before g)
    (hd : m.Declares (f.line v) g) : ∃ k, m.SetsOff f k := by
  obtain ⟨k, ⟨hk, hdk⟩, hno⟩ :=
    Field.exists_first (p := fun k => f.Before k ∧ m.Declares (f.line v) k) ⟨hfg, hd⟩
  exact ⟨k, hk, v, hv, hdk, fun l hl hlk hdl => hno l hlk ⟨hl, hdl⟩⟩

/-- A field leads to one field at most. -/
theorem LeadsTo.unique {k' : Field} (h : m.LeadsTo f k) (h' : m.LeadsTo f k') : k = k' := by
  induction h with
  | stop hno =>
      cases h' with
      | stop => rfl
      | step h => exact absurd h (hno _)
  | step h _ ih =>
      cases h' with
      | stop hno => exact absurd h (hno _)
      | step h₁ t => exact ih (h.unique h₁ ▸ t)

/-- Every field leads to some field, since each one that is set off stands after the one before. -/
theorem exists_leadsTo_of_eq (m : Metadata) {f : Field} (before after : List Field)
    (e : Field.all = before ++ f :: after) : ∃ k, m.LeadsTo f k := by
  by_cases h : ∃ g, m.SetsOff f g
  · obtain ⟨g, hg⟩ := h
    obtain ⟨between, later, rfl⟩ := List.append_of_mem (hg.1.mem_right e)
    have e' : Field.all = (before ++ f :: between) ++ g :: later := by simpa using e
    obtain ⟨k, hk⟩ := exists_leadsTo_of_eq m _ later e'
    exact ⟨k, .step hg hk⟩
  · exact ⟨f, .stop (not_exists.1 h)⟩
termination_by after.length

theorem exists_leadsTo (m : Metadata) (f : Field) : ∃ k, m.LeadsTo f k := by
  obtain ⟨before, after, e⟩ := List.append_of_mem (Field.mem_all f)
  exact exists_leadsTo_of_eq m before after e

/-! ### The end of a chain -/

theorem LeadsTo.not_setsOff (h : m.LeadsTo f k) (g : Field) : ¬ m.SetsOff k g := by
  induction h with
  | stop hno => exact hno g
  | step _ _ ih => exact ih

/-- The declaration at the end of a chain declares no field tried later. -/
theorem LeadsTo.not_declares (h : m.LeadsTo f k) (hw : m.value? k = some w) (hg : k.Before g) :
    ¬ m.Declares (k.line w) g := fun hd =>
  let ⟨l, hl⟩ := exists_setsOff hw hg hd
  h.not_setsOff l hl

/-- A chain ends no earlier than it begins. -/
theorem LeadsTo.eq_or_before (h : m.LeadsTo f k) : k = f ∨ f.Before k := by
  induction h with
  | stop => exact .inl rfl
  | step h _ ih =>
      rcases ih with rfl | hb
      · exact .inr h.1
      · exact .inr (h.1.trans hb)

/-- A declaration that declares no field tried later is a chain by itself. -/
theorem LeadsTo.eq_self (h : m.LeadsTo f k) (hv : m.value? f = some v)
    (hno : ∀ g, f.Before g → ¬ m.Declares (f.line v) g) : k = f := by
  cases h with
  | stop => rfl
  | step h =>
      obtain ⟨hb, v', hv', hd, -⟩ := h
      obtain rfl : v = v' := Option.some.inj (hv.symm.trans hv')
      exact absurd hd (hno _ hb)

/-! ### What becomes of a line -/

/-- **Trying the fields follows the chain.**  Once `f` has replaced the line, the fields after it
leave the declaration of the field that `f` leads to. -/
theorem LeadsTo.foldl_declare (h : m.LeadsTo f k) (line : Text) :
    ∀ {before after : List Field} {v : Text}, Field.all = before ++ f :: after →
      m.value? f = some v → ∃ w, m.value? k = some w ∧
        after.foldl (m.declare line) (some (f.line v)) = some (k.line w) := by
  induction h with
  | stop hno =>
      intro before after v e hv
      refine ⟨v, hv, foldl_declare_eq_self _ fun g hg hd => ?_⟩
      obtain ⟨l, hl⟩ := exists_setsOff hv (Field.before_of_mem_right e hg) hd
      exact hno l hl
  | @step f g k h _ ih =>
      intro before after v e hv
      obtain ⟨hb, v', hv', hd, hno⟩ := h
      obtain rfl : v = v' := Option.some.inj (hv.symm.trans hv')
      obtain ⟨w, hw⟩ := Option.isSome_iff_exists.1 hd.1
      -- the fields between `f` and `g` leave the declaration of `f` alone, and `g` replaces it
      obtain ⟨between, after, rfl⟩ := List.append_of_mem (hb.mem_right e)
      have e' : Field.all = (before ++ f :: between) ++ g :: after := by simpa using e
      have hbetween : ∀ l ∈ between, ¬ m.Declares (f.line v) l := fun l hl =>
        hno l (Field.before_of_mem_right e (List.mem_append_left _ hl))
          (Field.before_of_mem_left e' (by simp [hl]))
      rw [List.foldl_append, foldl_declare_eq_self (some (f.line v)) hbetween, List.foldl_cons,
        declare_eq_line (some (f.line v)) hd.2 hw]
      exact ih e' hw

/-- A line becomes the declaration of the field that its declared field leads to. -/
theorem imprintLine_of_leadsTo (hd : m.declared? line = some f) (h : m.LeadsTo f k) :
    ∃ w, m.value? k = some w ∧ m.imprintLine line = some (k.line w) := by
  obtain ⟨v, hv⟩ := exists_value? hd
  obtain ⟨before, after, e⟩ := List.append_of_mem (Field.mem_all f)
  rw [imprintLine_eq_foldl e hd hv]
  exact h.foldl_declare line e hv

/-- **What becomes of a line, whatever the values.**  A line that declares no field is left alone.
Otherwise the field `f` that it declares first leads to one field `k`, not tried before `f`, and
the line becomes the declaration of `k`.  That declares no field tried after `k`; it is the
declaration of `f` if that one declares no field tried after `f`; and it is the same for every line
with this declared field. -/
theorem imprintLine_chain (m : Metadata) (line : Text) :
    (m.imprintLine line = none ↔ ∀ f, ¬ m.Declares line f) ∧
      ∀ f, m.declared? line = some f → ∃ k w, m.LeadsTo f k ∧ (∀ k', m.LeadsTo f k' → k' = k) ∧
        m.value? k = some w ∧ m.imprintLine line = some (k.line w) ∧ (k = f ∨ f.Before k) ∧
        (∀ g, k.Before g → ¬ m.Declares (k.line w) g) ∧
        (∀ v, m.value? f = some v → (∀ g, f.Before g → ¬ m.Declares (f.line v) g) →
          m.imprintLine line = some (f.line v)) ∧
        ∀ line', m.declared? line' = some f → m.imprintLine line' = m.imprintLine line := by
  refine ⟨imprintLine_eq_none_iff, fun f hd => ?_⟩
  obtain ⟨k, hk⟩ := exists_leadsTo m f
  obtain ⟨w, hw, hline⟩ := imprintLine_of_leadsTo hd hk
  refine ⟨k, w, hk, fun k' hk' => hk'.unique hk, hw, hline, hk.eq_or_before,
    fun g hg => hk.not_declares hw hg, fun v hv hno => ?_, fun line' hd' => ?_⟩
  · obtain rfl := hk.eq_self hv hno
    rw [hline, Option.some.inj (hw.symm.trans hv)]
  · exact imprintLine_congr (hd'.trans hd.symm)

/-- Two values hold the opening of a field tried later, and the line declares the last field too. -/
theorem imprintLine_chain_cascade :
    let m : Metadata :=
      ⟨Field.buildDate.opening, "go".toList, Field.version.opening, some "1\n2".toList⟩
    let line := Field.version.opening ++ Field.buildString.opening
    m.declared? line = some .buildString ∧ ∃ k w, m.LeadsTo .buildString k ∧ k ≠ .buildString ∧
      m.value? k = some w ∧ m.imprintLine line = some (k.line w) := by
  intro m line
  have hd : m.declared? line = some .buildString := by decide
  obtain ⟨k, w, hk, -, hw, hline, -⟩ := (imprintLine_chain m line).2 .buildString hd
  refine ⟨hd, k, w, hk, ?_, hw, hline⟩
  -- the build date is declared by the declaration of the build string, so the chain goes on
  have hdate : m.Declares (Field.buildString.line Field.buildDate.opening) .buildDate := by decide
  rintro rfl
  exact hk.not_declares rfl (by decide) hdate

end Imprint.Metadata
