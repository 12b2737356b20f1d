import Mathlib.Data.List.Induction
import Imprint.Document.Reader
import Imprint.Proofs.Metadata.Order

/-!
# Document — what members make up

The members of a document that hold fields are gathered one by one, and at the end they are made
into metadata.  Three things can come of that, and they exclude each other: a field is repeated
(`Repeats`), no field is repeated but one is lacking (`Lacks`), or the members give metadata
(`Gives`).

* `addAll_of_repeats`: the first member whose field was gathered before is refused.
* `metadata_of_lacks`: of the fields that are lacking, the first in their own order is reported,
  wherever the others stand.
* `metadata_of_gives`: all other members give exactly the values they hold.
* `repeats_or_lacks_or_gives`: there is nothing else.
-/

namespace Imprint.Document.Members

variable {ms ms' : Members} {f g : Field} {t : Text} {m m' : Metadata}

/-- The fields that the members hold. -/
def fields (ms : Members) : List Field := ms.map Prod.fst

/-- Only the version is null. -/
def Proper (ms : Members) : Prop := ∀ f, (f, none) ∈ ms → f = .version

/-- One more member. -/
def add (ms : Members) (a : Field × Option Text) : Except Problem Members :=
  if (ms.lookup a.1).isSome then .error (.duplicate a.1) else .ok (ms ++ [a])

/-- More members, up to one that is refused. -/
def addAll (ms more : Members) : Except Problem Members := more.foldlM add ms

/-- `f` is the field of the first member whose field occurs before it. -/
def Repeats (ms : Members) (f : Field) : Prop :=
  ∃ (before : Members) (v : Option Text) (after : Members), ms = before ++ (f, v) :: after ∧
    before.fields.Nodup ∧ f ∈ before.fields

/-- No field is repeated, and `f` is the first one that has to be there and is not. -/
def Lacks (ms : Members) (f : Field) : Prop :=
  ms.fields.Nodup ∧ f ≠ .version ∧ f ∉ ms.fields ∧ ∀ g, g.Before f → g ∈ ms.fields

/-- No field is repeated, and the metadata has the values that the members hold, and no other. -/
structure Gives (ms : Members) (m : Metadata) : Prop where
  nodup   : ms.fields.Nodup
  held    : ∀ f, f ≠ .version → (f, m.value? f) ∈ ms
  version : (.version, m.version) ∈ ms ∨ m.version = none ∧ .version ∉ ms.fields

/-! ### Looking up -/

theorem mem_fields_of_mem {v : Option Text} (h : (f, v) ∈ ms) : f ∈ ms.fields :=
  List.mem_map_of_mem h

theorem exists_of_mem_fields (h : f ∈ ms.fields) : ∃ v, (f, v) ∈ ms := by
  obtain ⟨⟨g, v⟩, hmem, rfl⟩ := List.mem_map.1 h
  exact ⟨v, hmem⟩

theorem lookup_of_not_mem (h : f ∉ ms.fields) : ms.lookup f = none := by
  rw [List.lookup_eq_none_iff]
  rintro ⟨g, v⟩ hmem
  have hne : f ≠ g := fun e => h (e ▸ mem_fields_of_mem hmem)
  simpa using hne

/-- Where no field is repeated, a member is found. -/
theorem lookup_of_mem {v : Option Text} (hn : ms.fields.Nodup) (h : (f, v) ∈ ms) :
    ms.lookup f = some v := by
  obtain ⟨before, after, rfl⟩ := List.append_of_mem h
  rw [List.lookup_eq_some_iff]
  refine ⟨before, after, rfl, ?_⟩
  rintro ⟨g, w⟩ hmem
  have hne : g ≠ f := by
    rw [fields, List.map_append, List.nodup_append] at hn
    exact hn.2.2 g (mem_fields_of_mem hmem) f List.mem_cons_self
  simpa using hne.symm

theorem isSome_lookup_iff : (ms.lookup f).isSome = true ↔ f ∈ ms.fields := by
  rw [List.lookup_isSome_iff]
  constructor
  · rintro ⟨⟨g, v⟩, hmem, he⟩
    rw [eq_of_beq he]
    exact mem_fields_of_mem hmem
  · intro h
    obtain ⟨v, hmem⟩ := exists_of_mem_fields h
    exact ⟨(f, v), hmem, beq_self_eq_true f⟩

/-! ### Gathering -/

theorem add_of_not_mem {a : Field × Option Text} (h : a.1 ∉ ms.fields) :
    ms.add a = .ok (ms ++ [a]) := by
  rw [add, if_neg (mt isSome_lookup_iff.1 h)]

theorem add_of_mem {a : Field × Option Text} (h : a.1 ∈ ms.fields) :
    ms.add a = .error (.duplicate a.1) := by
  rw [add, if_pos (isSome_lookup_iff.2 h)]

theorem addAll_append (ms more more' : Members) :
    ms.addAll (more ++ more') = (ms.addAll more).bind fun ms => ms.addAll more' := by
  rw [addAll, List.foldlM_append]
  rfl

/-- Members of which none is repeated are all gathered. -/
theorem addAll_of_nodup {more : Members} (h : (fields (ms ++ more)).Nodup) :
    ms.addAll more = .ok (ms ++ more) := by
  induction more generalizing ms with
  | nil => rw [List.append_nil]; rfl
  | cons a more ih =>
      have hnot : a.1 ∉ ms.fields := by
        rw [fields, List.map_append, List.nodup_append] at h
        exact fun hmem => h.2.2 a.1 hmem a.1 List.mem_cons_self rfl
      rw [List.append_cons] at h ⊢
      rw [← ih h, addAll, List.foldlM_cons, add_of_not_mem hnot]
      rfl

theorem addAll_of_repeats (h : Repeats ms f) : addAll [] ms = .error (.duplicate f) := by
  obtain ⟨before, v, after, rfl, hn, hf⟩ := h
  have hbefore : addAll [] before = .ok before := addAll_of_nodup hn
  have hadd : add before (f, v) = .error (.duplicate f) := add_of_mem hf
  rw [addAll_append, hbefore]
  show addAll before ((f, v) :: after) = _
  rw [addAll, List.foldlM_cons, hadd]
  rfl

theorem Repeats.not_nodup (h : Repeats ms f) : ¬ ms.fields.Nodup := by
  obtain ⟨before, v, after, rfl, -, hf⟩ := h
  rw [fields, List.map_append, List.nodup_append]
  exact fun hn => hn.2.2 f hf f List.mem_cons_self rfl

/-- Among members whose fields are not all different there is a first that repeats a field. -/
theorem exists_repeats : ∀ {ms : Members}, ¬ ms.fields.Nodup → ∃ f, Repeats ms f := by
  intro ms
  induction ms using List.reverseRecOn with
  | nil => intro h; exact absurd List.nodup_nil h
  | append_singleton ms a ih =>
      intro h
      by_cases hn : (fields ms).Nodup
      · refine ⟨a.1, ms, a.2, [], rfl, hn, ?_⟩
        by_contra hnot
        refine h ?_
        rw [fields, List.map_append, List.nodup_append]
        refine ⟨hn, List.pairwise_singleton _ _, ?_⟩
        rintro g hg _ (_ | ⟨_, ⟨⟩⟩) rfl
        exact hnot hg
      · obtain ⟨f, before, v, after, rfl, hb, hf⟩ := ih hn
        exact ⟨f, before, v, after ++ [a], by simp, hb, hf⟩

/-! ### Making metadata -/

theorem require_of_not_mem (h : f ∉ ms.fields) : ms.require f = .error (.missing f) := by
  rw [require, lookup_of_not_mem h]

theorem require_of_mem (hn : ms.fields.Nodup) (h : (f, some t) ∈ ms) : ms.require f = .ok t := by
  rw [require, lookup_of_mem hn h]

/-- A field that has to be there and is has a text. -/
theorem Proper.exists_text (hp : ms.Proper) (hf : f ≠ .version) (h : f ∈ ms.fields) :
    ∃ t, (f, some t) ∈ ms := by
  obtain ⟨v, hv⟩ := exists_of_mem_fields h
  cases v with
  | none => exact absurd (hp f hv) hf
  | some t => exact ⟨t, hv⟩

theorem metadata_of_lacks (hp : ms.Proper) (h : Lacks ms f) :
    ms.metadata = .error (.missing f) := by
  obtain ⟨hn, hv, hf, hb⟩ := h
  have hbefore : ∀ g, g.Before f → ∃ t, ms.require g = .ok t := by
    intro g hg
    obtain ⟨t, ht⟩ := hp.exists_text hg.ne_version (hb g hg)
    exact ⟨t, require_of_mem hn ht⟩
  have hmissing := require_of_not_mem hf
  cases f with
  | buildString =>
      rw [metadata, hmissing]
      rfl
  | toolchain =>
      obtain ⟨b, hb⟩ := hbefore .buildString (by decide)
      rw [metadata, hb, hmissing]
      rfl
  | buildDate =>
      obtain ⟨b, hb⟩ := hbefore .buildString (by decide)
      obtain ⟨t, ht⟩ := hbefore .toolchain (by decide)
      rw [metadata, hb, ht, hmissing]
      rfl
  | version => exact absurd rfl hv

theorem metadata_of_gives (h : Gives ms m) : ms.metadata = .ok m := by
  have hversion : (ms.lookup .version).join = m.version := by
    rcases h.version with hv | ⟨hv, hnot⟩
    · rw [lookup_of_mem h.nodup hv, Option.join_some]
    · rw [lookup_of_not_mem hnot, hv, Option.join_none]
  rw [metadata, require_of_mem h.nodup (h.held .buildString (by decide)),
    require_of_mem h.nodup (h.held .toolchain (by decide)),
    require_of_mem h.nodup (h.held .buildDate (by decide)), hversion]
  rfl

/-- Members that repeat and lack nothing give metadata. -/
theorem exists_gives (hp : ms.Proper) (hn : ms.fields.Nodup)
    (h : ∀ f, f ≠ .version → f ∈ ms.fields) : ∃ m, Gives ms m := by
  obtain ⟨b, hb⟩ := hp.exists_text (f := .buildString) (by decide) (h _ (by decide))
  obtain ⟨t, ht⟩ := hp.exists_text (f := .toolchain) (by decide) (h _ (by decide))
  obtain ⟨d, hd⟩ := hp.exists_text (f := .buildDate) (by decide) (h _ (by decide))
  have hheld : ∀ v f, f ≠ .version → (f, Metadata.value? ⟨b, t, d, v⟩ f) ∈ ms := by
    intro v f hf
    cases f with
    | buildString => exact hb
    | toolchain => exact ht
    | buildDate => exact hd
    | version => exact absurd rfl hf
  by_cases hv : .version ∈ ms.fields
  · obtain ⟨v, hv⟩ := exists_of_mem_fields hv
    exact ⟨⟨b, t, d, v⟩, hn, hheld v, .inl hv⟩
  · exact ⟨⟨b, t, d, none⟩, hn, hheld none, .inr ⟨rfl, hv⟩⟩

/-- Of the fields that have to be there and are not, one is first. -/
theorem exists_lacks (hn : ms.fields.Nodup) (hf : f ≠ .version) (h : f ∉ ms.fields) :
    ∃ g, Lacks ms g := by
  obtain ⟨g, ⟨hv, hg⟩, hno⟩ :=
    Field.exists_first (p := fun g => g ≠ .version ∧ g ∉ ms.fields) ⟨hf, h⟩
  refine ⟨g, hn, hv, hg, ?_⟩
  intro k hk
  by_contra hnot
  exact hno k hk ⟨hk.ne_version, hnot⟩

/-- **What members make up.** -/
theorem repeats_or_lacks_or_gives (hp : ms.Proper) :
    (∃ f, Repeats ms f) ∨ (∃ f, Lacks ms f) ∨ ∃ m, Gives ms m := by
  by_cases hn : ms.fields.Nodup
  · by_cases h : ∀ f, f ≠ .version → f ∈ ms.fields
    · exact .inr (.inr (exists_gives hp hn h))
    · push Not at h
      obtain ⟨f, hf, hnot⟩ := h
      exact .inr (.inl (exists_lacks hn hf hnot))
  · exact .inl (exists_repeats hn)

/-! ### In any order -/

theorem fields_perm (h : ms.Perm ms') : ms.fields.Perm ms'.fields := h.map _

theorem Lacks.perm (h : Lacks ms f) (hp : ms.Perm ms') : Lacks ms' f := by
  obtain ⟨hn, hv, hf, hb⟩ := h
  have hfields := fields_perm hp
  refine ⟨hfields.nodup_iff.1 hn, hv, mt hfields.mem_iff.2 hf, ?_⟩
  intro g hg
  exact hfields.mem_iff.1 (hb g hg)

theorem Gives.perm (h : Gives ms m) (hp : ms.Perm ms') : Gives ms' m where
  nodup := (fields_perm hp).nodup_iff.1 h.nodup
  held f hf := hp.mem_iff.1 (h.held f hf)
  version := h.version.imp hp.mem_iff.1 (And.imp_right (mt (fields_perm hp).mem_iff.2))

end Imprint.Document.Members
