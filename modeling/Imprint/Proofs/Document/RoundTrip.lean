import Imprint.Document.Reader
import Imprint.Proofs.Document.Spelling

/-!
# Document — what is printed is read

A printed document is read octet by octet into the metadata that was printed (`read_print`).

`State.Reads` is a stretch of the reading: octets that lead from one state to another, where every
state before the last one still wants more.  There is one such stretch for each piece in which a
document is printed: a quoted text (`reads_text`), as a key or as a value, `null`, and what leads
to a member.  Put together they read one member (`reads_member`), then the members after the first
(`reads_members`), and then the object (`reads_object`).
-/

namespace Imprint.Document

namespace State

/-- Octets that are read on from one state to another.  A document that ended at one of them would
be cut short. -/
inductive Reads : State → Bytes → State → Prop where
  | nil (s : State) : Reads s [] s
  | cons {s s₁ s' : State} {b : UInt8} {bs : Bytes} (hw : s.finish = .error .truncated)
      (h : s.next b = .ok s₁) (t : Reads s₁ bs s') : Reads s (b :: bs) s'

variable {s s₁ s' : State} {ms : Members} {bs bs' : Bytes} {m : Metadata} {f : Field}

theorem Reads.one {b : UInt8} (hw : s.finish = .error .truncated) (h : s.next b = .ok s') :
    Reads s [b] s' :=
  .cons hw h (.nil s')

theorem Reads.append (h : Reads s bs s₁) (h' : Reads s₁ bs' s') : Reads s (bs ++ bs') s' := by
  induction h with
  | nil => exact h'
  | cons hw h _ ih => exact .cons hw h (ih h')

theorem Reads.run (h : Reads s bs s') : s.run bs = .ok s' := by
  induction h with
  | nil => rfl
  | cons _ h _ ih => rw [State.run, h]; exact ih

/-! ### Quoted texts -/

/-- States in which a quoted text is read, and what becomes of the text `t`: they follow the
reader of quoted texts, and where it closes the text they go on to `s'`. -/
structure Holds (inside : Quotation → State) (t : Text) (s' : State) : Prop where
  waits : ∀ q, (inside q).finish = .error .truncated
  next  : ∀ q b q', q.next b = .ok (.inl q') → (inside q).next b = .ok (inside q')
  close : ∀ q b, q.next b = .ok (.inr t) → (inside q).next b = .ok s'

theorem Holds.reads {inside : Quotation → State} {t : Text} (hi : Holds inside t s')
    {q q' : Quotation} (h : Quotation.Reads q bs q') : Reads (inside q) bs (inside q') := by
  induction h with
  | nil => exact .nil _
  | cons h _ ih => exact .cons (hi.waits _) (hi.next _ _ _ h) ih

/-- A text between quotes, in any way to write it. -/
theorem reads_text {inside : Quotation → State} {t : Text} (h : WritesText t bs)
    (hi : Holds inside t s') (hw : s.finish = .error .truncated)
    (ho : s.next (octet '"') = .ok (inside .opened)) : Reads s bs s' := by
  obtain ⟨inner, ht, rfl⟩ := h
  have hc := hi.close _ _ (Quotation.next_quote t)
  exact .cons hw ho ((hi.reads ht.reads_opened).append (.one (hi.waits _) hc))

theorem holds_inKey {k : Text} (hk : readKey ms k = .ok s') : Holds (.inKey ms) k s' where
  waits _      := rfl
  next _ _ _ h := by simp only [State.next, h]; rfl
  close _ _ h  := by simp only [State.next, h]; exact hk

theorem holds_inText (slot : Slot) (t : Text) : Holds (.inText slot) t (slot.fill (some t)) where
  waits _      := rfl
  next _ _ _ h := by simp only [State.next, h]; rfl
  close _ _ h  := by simp only [State.next, h]; rfl

/-! ### Members -/

/-- The value of a field; only that of the version may be `null`. -/
theorem reads_value (m : Metadata) (ms : Members) (f : Field) :
    Reads (.beforeValue ⟨ms, f, false⟩) (Text.encode (value (m.value? f)))
      (.afterMember (ms ++ [(f, m.value? f)])) := by
  cases hv : m.value? f with
  | some t => exact reads_text (writesText_quoted t) (holds_inText _ t) rfl rfl
  | none =>
      cases f with
      | version => exact .cons rfl rfl <| .cons rfl rfl <| .cons rfl rfl <| .one rfl rfl
      | buildString => cases hv
      | toolchain => cases hv
      | buildDate => cases hv

theorem readKey_key (h : ms.lookup f = none) : readKey ms f.key = .ok (.afterKey ms f) := by
  simp only [readKey, Field.ofKey?_key, h]
  rfl

/-- A member, from where its key may begin. -/
theorem reads_member (hm : ms.lookup f = none) (hw : s.finish = .error .truncated)
    (ho : s.next (octet '"') = .ok (.inKey ms .opened)) :
    Reads s (Text.encode (quoted f.key ++ [':', ' '] ++ value (m.value? f)))
      (.afterMember (ms ++ [(f, m.value? f)])) := by
  have hcolon : Reads (.afterKey ms f) (Text.encode [':', ' ']) (.beforeValue ⟨ms, f, false⟩) :=
    .cons rfl rfl <| .one rfl rfl
  rw [Text.encode_append, Text.encode_append]
  have hkey := reads_text (writesText_quoted f.key) (holds_inKey (readKey_key hm)) hw ho
  exact (hkey.append hcolon).append (reads_value m ms f)

/-- A comma leads from one member to the next. -/
theorem reads_lead (hf : f ≠ .buildString) :
    Reads (.afterMember ms) (Text.encode (lead f)) (.beforeKey ms) := by
  cases f
  case buildString => exact absurd rfl hf
  all_goals exact .cons rfl rfl <| .cons rfl rfl <| .cons rfl rfl <| .one rfl rfl

/-- A field as it is printed, with what leads to it. -/
def member (m : Metadata) (f : Field) : Text :=
  lead f ++ (quoted f.key ++ [':', ' '] ++ value (m.value? f))

/-- Members after the first, none of a field that was read before. -/
theorem reads_members (m : Metadata) :
    ∀ {fs : List Field} {ms : Members}, .buildString ∉ fs → fs.Nodup →
      (∀ f ∈ fs, ms.lookup f = none) →
        Reads (.afterMember ms) (Text.encode (fs.flatMap (member m)))
          (.afterMember (ms ++ fs.map fun f => (f, m.value? f)))
  | [],      ms, _,  _,  _  => by rw [List.map_nil, List.append_nil]; exact .nil _
  | f :: fs, ms, hb, hd, hm => by
      obtain ⟨hf, hd⟩ := List.nodup_cons.1 hd
      have hm' : ∀ g ∈ fs, (ms ++ [(f, m.value? f)]).lookup g = none := by
        intro g hg
        have hgf : g ≠ f := fun e => hf (e ▸ hg)
        rw [List.lookup_append, hm g (List.mem_cons_of_mem f hg), Option.none_or, List.lookup_cons,
          beq_eq_false_iff_ne.2 hgf, List.lookup_nil]
      have hrest := reads_members m (fun h => hb (List.mem_cons_of_mem f h)) hd hm'
      have hone := (reads_lead fun e => hb (e ▸ List.mem_cons_self)).append
        (reads_member (m := m) (hm f List.mem_cons_self) (s := .beforeKey ms) rfl rfl)
      rw [List.append_assoc, List.singleton_append] at hrest
      rw [List.flatMap_cons, Text.encode_append, member, Text.encode_append, List.map_cons]
      exact hone.append hrest

/-! ### The object -/

theorem object_eq (m : Metadata) :
    object m = ['\x7b'] ++ lead .buildString ++
      (quoted Field.buildString.key ++ [':', ' '] ++ value (m.value? .buildString)) ++
      [Field.toolchain, .buildDate, .version].flatMap (member m) ++ ['\n', '\x7d'] := by
  simp [object, objectParts, Field.all, member]

/-- The printed object, from its opening brace to its closing one. -/
theorem reads_object (m : Metadata) : Reads .start (Text.encode (object m)) (.done m) := by
  have hopen : Reads .start (Text.encode (['\x7b'] ++ lead .buildString)) .objectStart :=
    .cons rfl rfl <| .cons rfl rfl <| .cons rfl rfl <| .one rfl rfl
  have hnone : ([] : Members).lookup Field.buildString = none := rfl
  have hfirst := reads_member (m := m) hnone (s := .objectStart) rfl rfl
  have hrest : Reads (.afterMember [(.buildString, m.value? .buildString)])
      (Text.encode ([Field.toolchain, .buildDate, .version].flatMap (member m)))
      (.afterMember (Field.all.map fun f => (f, m.value? f))) :=
    reads_members m (by decide) (by decide) (by simp)
  have hclose : Reads (.afterMember (Field.all.map fun f => (f, m.value? f)))
      (Text.encode ['\n', '\x7d']) (.done m) :=
    .cons rfl rfl <| .one rfl rfl
  rw [object_eq, Text.encode_append, Text.encode_append, Text.encode_append]
  exact ((hopen.append hfirst).append hrest).append hclose

end State

/-- **What is printed can be read.**  The octets of a printed document, the newline at the end
included, are read as the metadata that was printed, whatever characters its values are made of. -/
theorem read_print (m : Metadata) : read (Text.encode (print m)) = .ok m := by
  have hp : print m = object m ++ ['\n'] := rfl
  have hr := (State.reads_object m).run
  rw [read, hp, Text.encode_append, State.run_append, hr]
  rfl

end Imprint.Document
