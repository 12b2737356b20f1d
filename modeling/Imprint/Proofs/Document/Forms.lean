import Imprint.Proofs.Document.Members
import Imprint.Proofs.Document.RoundTrip
import Imprint.Proofs.Document.Values

/-!
# Document — the two forms

A document may be written by any other program: as an object whose members come in any order, with
any way to write each text, blanks between the tokens and members that are no fields
(`WritesObject`), or as an array of the values (`WritesArray`).

* `run_entry`: a member is read as one more entry, whether it holds a field or is skipped.
* `run_entries`: so all of them are, by induction on how they are listed, and `read_writesObject`
  adds the braces.
* `read_object`: what becomes of an object is decided by the members that hold fields, as they stand
  in it; and where no field is repeated, their order is nothing to it.
* `read_array`: the array form gives the same metadata.
-/

namespace Imprint.Document

/-! ### How the forms are written -/

/-- A member of an object: one of the fields, of which only the version may be null, or a member
that is no field. -/
inductive Entry where
  | known (f : Field) (value : Option Text) (hv : value = none → f = .version)
  | other (key : Text) (hk : ∀ f ∈ Field.all, f.key ≠ key)

namespace Entry

/-- The key of the member. -/
def key : Entry → Text
  | known f _ _ => f.key
  | other key _ => key

/-- The field with its value, if the member is one. -/
def member? : Entry → Option (Field × Option Text)
  | known f value _ => some (f, value)
  | other _ _       => none

end Entry

/-- The members that hold fields. -/
def known (es : List Entry) : Members := es.filterMap Entry.member?

/-- The ways to write the value of a field. -/
inductive WritesHeld : Option Text → Bytes → Prop where
  | text {t : Text} {bs : Bytes} (h : WritesText t bs) : WritesHeld (some t) bs
  | null : WritesHeld none ("null".toList.map octet)

/-- The ways to write the value of a member; one that is no field may have any value. -/
inductive WritesValue : Entry → Bytes → Prop where
  | known {f : Field} {value : Option Text} {hv : value = none → f = .version} {bs : Bytes}
      (h : WritesHeld value bs) : WritesValue (.known f value hv) bs
  | other {key : Text} {hk : ∀ f ∈ Field.all, f.key ≠ key} {bs : Bytes} (h : Writes .value bs) :
      WritesValue (.other key hk) bs

/-- The ways to write a member. -/
inductive WritesEntry (e : Entry) : Bytes → Prop where
  | mk {k l r v : Bytes} (hk : WritesText e.key k) (hl : Blanks l) (hr : Blanks r)
      (hv : WritesValue e v) : WritesEntry e (k ++ (l ++ octet ':' :: (r ++ v)))

/-- One or more items with commas between them, and blanks around each. -/
inductive Listed {α : Type} (writes : α → Bytes → Prop) : List α → Bytes → Prop where
  | one {a : α} {l bs r : Bytes} (hl : Blanks l) (h : writes a bs) (hr : Blanks r) :
      Listed writes [a] (l ++ (bs ++ r))
  | more {a : α} {as : List α} {l bs r bs' : Bytes} (hl : Blanks l) (h : writes a bs)
      (hr : Blanks r) (t : Listed writes as bs') :
      Listed writes (a :: as) (l ++ (bs ++ (r ++ octet ',' :: bs')))

/-- The items of a list, or nothing but blanks where there is none. -/
def WritesItems {α : Type} (writes : α → Bytes → Prop) (as : List α) (bs : Bytes) : Prop :=
  as = [] ∧ Blanks bs ∨ Listed writes as bs

/-- The octets are an object with these members, in this order. -/
inductive WritesObject (es : List Entry) : Bytes → Prop where
  | mk {l inner r : Bytes} (hl : Blanks l) (h : WritesItems WritesEntry es inner) (hr : Blanks r) :
      WritesObject es (l ++ octet '\x7b' :: (inner ++ octet '\x7d' :: r))

/-- The octets are an array of the values of these fields. -/
inductive WritesArray (m : Metadata) (fs : List Field) : Bytes → Prop where
  | mk {l inner r : Bytes} (hl : Blanks l) (h : Listed WritesHeld (fs.map m.value?) inner)
      (hr : Blanks r) : WritesArray m fs (l ++ octet '[' :: (inner ++ octet ']' :: r))

theorem known_proper (es : List Entry) : (known es).Proper := by
  intro f h
  obtain ⟨e, -, he⟩ := List.mem_filterMap.1 h
  cases e with
  | known g value hv =>
      cases he
      exact hv rfl
  | other key hk => cases he

namespace State

variable {s s' : State} {bs rest : Bytes} {ms : Members} {slot : Slot} {e : Entry} {es : List Entry}

/-! ### Members -/

theorem Reads.run_append (h : Reads s bs s') (rest : Bytes) : s.run (bs ++ rest) = s'.run rest := by
  rw [State.run_append, h.run]
  rfl

theorem run_octet {b : UInt8} (rest : Bytes) :
    s.run (b :: rest) = (s.next b).bind fun s' => s'.run rest := by
  rw [run]
  cases s.next b <;> rfl

theorem reads_inKey {q q' : Quotation} (h : Quotation.Reads q bs q') :
    Reads (.inKey ms q) bs (.inKey ms q') := by
  induction h with
  | nil => exact .nil _
  | cons h _ ih => exact .cons rfl (by simp only [next, h]; rfl) ih

/-- A key, up to what the reader makes of it. -/
theorem run_key {key : Text} (h : WritesText key bs)
    (ho : s.next (octet '"') = .ok (.inKey ms .opened)) (rest : Bytes) :
    s.run (bs ++ rest) = (readKey ms key).bind fun s' => s'.run rest := by
  obtain ⟨inner, hi, rfl⟩ := h
  have hquote : (inKey ms ⟨key.encode.reverse, .plain⟩).next (octet '"') = readKey ms key := by
    simp only [next, Quotation.next_quote]
    rfl
  rw [List.cons_append, run_cons ho, List.append_assoc, (reads_inKey hi.reads_opened).run_append,
    List.singleton_append, run_octet, hquote]

/-- The value of a field fills its slot. -/
theorem run_held {value : Option Text} (h : WritesHeld value bs)
    (hv : value = none → slot.field = .version) (rest : Bytes) :
    (beforeValue slot).run (bs ++ rest) = (slot.fill value).run rest := by
  cases h with
  | @text t bs h => exact (reads_text h (holds_inText slot t) rfl rfl).run_append rest
  | null =>
      obtain ⟨ms, f, inArray⟩ := slot
      obtain rfl : f = .version := hv rfl
      rfl

/-- A key of a field is refused or read on just as its member is gathered or not. -/
theorem readKey_field (ms : Members) (f : Field) (value : Option Text) :
    (readKey ms f.key = .error (.duplicate f) ∧ ms.add (f, value) = .error (.duplicate f)) ∨
      (readKey ms f.key = .ok (.afterKey ms f) ∧ ms.add (f, value) = .ok (ms ++ [(f, value)])) := by
  rw [readKey, Field.ofKey?_key, Members.add]
  by_cases h : (ms.lookup f).isSome
  · exact .inl ⟨if_pos h, if_pos h⟩
  · exact .inr ⟨if_neg h, if_neg h⟩

theorem readKey_other {key : Text} (hk : ∀ f ∈ Field.all, f.key ≠ key) (ms : Members) :
    readKey ms key = .ok (.afterKey ms none) := by
  have hnone : Field.ofKey? key = none := by
    rw [Field.ofKey?, List.find?_eq_none]
    intro f hf he
    exact hk f hf (of_decide_eq_true he)
  rw [readKey, hnone]

/-- A member is gathered if it holds a field, and skipped if it does not. -/
theorem run_entry (h : WritesEntry e bs) (ho : s.next (octet '"') = .ok (.inKey ms .opened))
    (hrest : Delimited rest) :
    s.run (bs ++ rest) = (ms.addAll (known [e])).bind fun ms' => (afterMember ms').run rest := by
  obtain ⟨hk, hl, hr, hv⟩ := h
  rw [List.append_assoc, run_key hk ho]
  simp only [List.append_assoc, List.cons_append]
  cases hv with
  | @known f value hn bs h =>
      have hcolon : (afterKey ms f).next (octet ':') = .ok (.beforeValue ⟨ms, f, false⟩) := rfl
      have hfill : (Slot.mk ms f false).fill value = .afterMember (ms ++ [(f, value)]) := rfl
      have hknown : ms.addAll (known [.known f value hn]) = ms.add (f, value) := by
        show (ms.add (f, value)).bind _ = _
        cases ms.add (f, value) <;> rfl
      rw [hknown, Entry.key]
      rcases readKey_field ms f value with ⟨hkey, hadd⟩ | ⟨hkey, hadd⟩
      · rw [hkey, hadd]
        rfl
      · rw [hkey, hadd]
        show (afterKey ms f).run _ = (afterMember (ms ++ [(f, value)])).run rest
        rw [run_blanks rfl hl, run_cons hcolon, run_blanks rfl hr, run_held h hn, hfill]
  | @other key hn bs h =>
      have hcolon : (afterKey ms none).next (octet ':') = .ok (.skipping ms (.value [])) := rfl
      rw [Entry.key, readKey_other hn]
      show (afterKey ms none).run _ = (afterMember ms).run rest
      rw [run_blanks rfl hl, run_cons hcolon, run_blanks rfl hr, h.skipped ms [] rest hrest]
      rfl

/-- The members of an object, up to its closing brace. -/
theorem run_entries (h : Listed WritesEntry es bs) (rest : Bytes) :
    ∀ {s : State} {ms : Members}, s.waits = true → s.next (octet '"') = .ok (.inKey ms .opened) →
      s.run (bs ++ Bracket.object.closing :: rest) = (ms.addAll (known es)).bind fun ms' =>
        (afterMember ms').run (Bracket.object.closing :: rest) := by
  induction h with
  | @one e l bs r hl h hr =>
      intro s ms hs ho
      rw [List.append_assoc, run_blanks hs hl, List.append_assoc,
        run_entry h ho ((delimited_closing .object rest).blanks_append hr)]
      congr 1
      funext ms'
      exact run_blanks rfl hr _
  | @more e es l bs r bs' hl h hr _ ih =>
      intro s ms hs ho
      have hsplit : known (e :: es) = known [e] ++ known es := List.filterMap_append (l := [e])
      simp only [List.append_assoc, List.cons_append]
      rw [run_blanks hs hl, run_entry h ho ((delimited_comma _).blanks_append hr), hsplit,
        Members.addAll_append]
      cases ms.addAll (known [e]) with
      | error p => rfl
      | ok ms' =>
          show (afterMember ms').run _ = _
          have hcomma : (afterMember ms').next (octet ',') = .ok (.beforeKey ms') := rfl
          rw [run_blanks rfl hr, run_cons hcomma]
          exact ih rfl rfl

/-- The closing bracket asks for the metadata, and after it there are only blanks. -/
theorem run_last (ms : Members) {b : UInt8} (hb : s.next b = ms.metadata.map .done)
    (hbs : Blanks bs) :
    (s.run (b :: bs)).bind finish = ms.metadata := by
  rw [run_octet, hb]
  cases ms.metadata with
  | error p => rfl
  | ok m =>
      have hblank := run_blanks (s := .done m) rfl hbs []
      rw [List.append_nil] at hblank
      show ((done m).run bs).bind finish = _
      rw [hblank]
      rfl

end State

/-- An object is read as the members that it has, one after the other. -/
theorem read_writesObject {es : List Entry} {bs : Bytes} (h : WritesObject es bs) :
    read bs = (Members.addAll [] (known es)).bind Members.metadata := by
  obtain ⟨hl, h, hr⟩ := h
  have hopen : State.start.next (octet '\x7b') = .ok .objectStart := rfl
  show (State.start.run _).bind State.finish = _
  rw [State.run_blanks rfl hl, State.run_cons hopen]
  rcases h with ⟨rfl, hblank⟩ | h
  · rw [State.run_blanks rfl hblank]
    exact State.run_last [] rfl hr
  · rw [← Bracket.closing, State.run_entries h _ rfl rfl]
    cases Members.addAll [] (known es) with
    | error p => rfl
    | ok ms => exact State.run_last ms rfl hr

/-! ### The array -/

theorem eq_version_of_value?_eq_none {m : Metadata} {f : Field} (h : m.value? f = none) :
    f = .version := by
  cases f <;> first | rfl | cases h

/-- The member that the metadata has for a field. -/
def heldBy (m : Metadata) (f : Field) : Field × Option Text := (f, m.value? f)

theorem WritesHeld.exists_head {value : Option Text} {bs : Bytes} (h : WritesHeld value bs) :
    ∃ b bs', bs = b :: bs' ∧ isBlank b = false ∧ b ≠ octet ']' := by
  cases h with
  | text h =>
      obtain ⟨inner, -, rfl⟩ := h
      exact ⟨_, _, rfl, by decide, by decide⟩
  | null => exact ⟨_, _, rfl, by decide, by decide⟩

theorem Listed.exists_head {values : List (Option Text)} {bs : Bytes}
    (h : Listed WritesHeld values bs) :
    ∃ l b bs', bs = l ++ b :: bs' ∧ Blanks l ∧ isBlank b = false ∧ b ≠ octet ']' := by
  cases h with
  | one hl h hr =>
      obtain ⟨b, bs', rfl, hb, hc⟩ := h.exists_head
      exact ⟨_, b, _, rfl, hl, hb, hc⟩
  | more hl h hr t =>
      obtain ⟨b, bs', rfl, hb, hc⟩ := h.exists_head
      exact ⟨_, b, _, rfl, hl, hb, hc⟩

namespace State

variable {bs : Bytes} {m : Metadata} {values : List (Option Text)}

/-- The first element, after the opening bracket. -/
theorem run_arrayStart (h : Listed WritesHeld values bs) (rest : Bytes) :
    arrayStart.run (bs ++ rest) = (beforeValue ⟨[], .buildString, true⟩).run (bs ++ rest) := by
  obtain ⟨l, b, bs, rfl, hl, hb, hc⟩ := h.exists_head
  rw [List.append_assoc, run_blanks rfl hl, run_blanks rfl hl, List.cons_append]
  refine run_cons_congr ?_ _
  simp only [next, hb, if_neg hc, Bool.false_eq_true, if_false]

/-- A comma leads from the element of a field to that of the next one. -/
theorem next_element {before after : List Field} {g : Field}
    (hall : Field.all = before ++ g :: after) :
    (afterElement (before.map (heldBy m))).next (octet ',') =
      .ok (.beforeValue ⟨before.map (heldBy m), g, true⟩) := by
  have hg : Field.all[(before.map (heldBy m)).length]? = some g := by
    rw [hall, List.length_map, List.getElem?_append_right (Nat.le_refl _), Nat.sub_self]
    rfl
  show nextElement _ _ = _
  simp only [nextElement, hg]
  rfl

theorem fill_element (m : Metadata) (before : List Field) (f : Field) :
    Slot.fill ⟨before.map (heldBy m), f, true⟩ (m.value? f) =
      .afterElement ((before ++ [f]).map (heldBy m)) := by
  rw [List.map_append]
  rfl

/-- The elements from that of the field `f` on. -/
theorem run_elements (h : Listed WritesHeld values bs) (rest : Bytes) :
    ∀ {before after : List Field} {f : Field} {fs : List Field}, values = (f :: fs).map m.value? →
      Field.all = before ++ f :: fs ++ after →
        (beforeValue ⟨before.map (heldBy m), f, true⟩).run (bs ++ rest) =
          (afterElement ((before ++ f :: fs).map (heldBy m))).run rest := by
  induction h with
  | @one value l bs r hl h hr =>
      intro before after f fs hvalues hall
      obtain ⟨rfl, hnil⟩ := List.cons.inj hvalues
      obtain rfl : fs = [] := List.map_eq_nil_iff.1 hnil.symm
      simp only [List.append_assoc]
      rw [run_blanks rfl hl, run_held h eq_version_of_value?_eq_none, fill_element]
      exact run_blanks rfl hr rest
  | @more value values l bs r bs' hl h hr t ih =>
      intro before after f fs hvalues hall
      obtain ⟨rfl, rfl⟩ := List.cons.inj hvalues
      cases fs with
      | nil => cases t
      | cons g fs =>
          have hall' : Field.all = before ++ [f] ++ g :: fs ++ after := by
            rw [hall, List.append_cons before f]
          have hcomma := next_element (m := m) (hall'.trans (List.append_assoc _ _ _))
          have hrest := @ih (before ++ [f]) after g fs rfl hall'
          rw [← List.append_cons] at hrest
          simp only [List.append_assoc, List.cons_append]
          rw [run_blanks rfl hl, run_held h eq_version_of_value?_eq_none, fill_element,
            run_blanks rfl hr, run_cons hcomma, hrest]

end State

/-- An array of the values of at least three fields is read as their members. -/
theorem read_writesArray {m : Metadata} {fs after : List Field} {bs : Bytes}
    (h : WritesArray m fs bs) (hall : Field.all = fs ++ after) (hlen : 3 ≤ fs.length) :
    read bs = Members.metadata (fs.map (heldBy m)) := by
  obtain @⟨l, inner, r, hl, h, hr⟩ := h
  obtain ⟨fs, rfl⟩ : ∃ fs', fs = .buildString :: fs' := by
    cases fs with
    | nil => cases hlen
    | cons f fs' =>
        obtain ⟨rfl, -⟩ := List.cons.inj hall
        exact ⟨fs', rfl⟩
  have hopen : State.start.next (octet '[') = .ok .arrayStart := rfl
  have hall' : Field.all = [] ++ .buildString :: fs ++ after := hall
  have helements := State.run_elements (m := m) h (octet ']' :: r) rfl hall'
  rw [List.map_nil, List.nil_append] at helements
  show (State.start.run _).bind State.finish = _
  rw [State.run_blanks rfl hl, State.run_cons hopen, State.run_arrayStart h, helements]
  refine State.run_last _ ?_ hr
  have hlen' : ¬ ((Field.buildString :: fs).map (heldBy m)).length < 3 := by
    rw [List.length_map]
    omega
  show State.nextElement _ _ = _
  simp only [State.nextElement, if_neg hlen']
  rfl

/-- The array form, with the version as its last element or without an absent one. -/
theorem read_array {m : Metadata} {fs : List Field} {bs : Bytes} (h : WritesArray m fs bs)
    (hfs : fs = Field.all ∨ m.version = none ∧ fs = [.buildString, .toolchain, .buildDate]) :
    read bs = .ok m := by
  have hall : Field.all = Field.all ++ [] := rfl
  have hthree : Field.all = [.buildString, .toolchain, .buildDate] ++ [.version] := rfl
  obtain ⟨b, t, d, v⟩ := m
  rcases hfs with rfl | ⟨rfl, rfl⟩
  · exact read_writesArray h hall (by decide)
  · exact read_writesArray h hthree (by decide)

/-! ### What becomes of an object -/

section

variable {es : List Entry} {bs : Bytes} {f : Field} {m : Metadata}

theorem read_of_repeats (h : WritesObject es bs) (hf : (known es).Repeats f) :
    read bs = .error (.duplicate f) := by
  rw [read_writesObject h, Members.addAll_of_repeats hf]
  rfl

theorem read_of_nodup (h : WritesObject es bs) (hn : (known es).fields.Nodup) :
    read bs = (known es).metadata := by
  have hall : Members.addAll [] (known es) = .ok (known es) := Members.addAll_of_nodup hn
  rw [read_writesObject h, hall]
  rfl

theorem read_of_lacks (h : WritesObject es bs) (hf : (known es).Lacks f) :
    read bs = .error (.missing f) := by
  rw [read_of_nodup h hf.1, Members.metadata_of_lacks (known_proper es) hf]

theorem read_of_gives (h : WritesObject es bs) (hm : (known es).Gives m) : read bs = .ok m := by
  rw [read_of_nodup h hm.nodup, Members.metadata_of_gives hm]

/-- What is read of an object, with what its members are like. -/
theorem read_cases (h : WritesObject es bs) :
    (∃ f, (known es).Repeats f ∧ read bs = .error (.duplicate f)) ∨
      (∃ f, (known es).Lacks f ∧ read bs = .error (.missing f)) ∨
        ∃ m, (known es).Gives m ∧ read bs = .ok m := by
  rcases Members.repeats_or_lacks_or_gives (known_proper es) with ⟨f, hf⟩ | ⟨f, hf⟩ | ⟨m, hm⟩
  · exact .inl ⟨f, hf, read_of_repeats h hf⟩
  · exact .inr (.inl ⟨f, hf, read_of_lacks h hf⟩)
  · exact .inr (.inr ⟨m, hm, read_of_gives h hm⟩)

theorem read_eq_duplicate_iff (h : WritesObject es bs) :
    read bs = .error (.duplicate f) ↔ (known es).Repeats f := by
  refine ⟨fun hr => ?_, read_of_repeats h⟩
  rcases read_cases h with ⟨g, hg, e⟩ | ⟨g, hg, e⟩ | ⟨m, hm, e⟩
  · cases hr.symm.trans e
    exact hg
  · cases hr.symm.trans e
  · cases hr.symm.trans e

theorem read_eq_missing_iff (h : WritesObject es bs) :
    read bs = .error (.missing f) ↔ (known es).Lacks f := by
  refine ⟨fun hr => ?_, read_of_lacks h⟩
  rcases read_cases h with ⟨g, hg, e⟩ | ⟨g, hg, e⟩ | ⟨m, hm, e⟩
  · cases hr.symm.trans e
  · cases hr.symm.trans e
    exact hg
  · cases hr.symm.trans e

theorem read_eq_ok_iff (h : WritesObject es bs) : read bs = .ok m ↔ (known es).Gives m := by
  refine ⟨fun hr => ?_, read_of_gives h⟩
  rcases read_cases h with ⟨g, hg, e⟩ | ⟨g, hg, e⟩ | ⟨m', hm, e⟩
  · cases hr.symm.trans e
  · cases hr.symm.trans e
  · cases hr.symm.trans e
    exact hm

/-- An object is refused for a field that is repeated or missing, and the message names it. -/
theorem message_of_read (h : WritesObject es bs) {p : Problem} (hr : read bs = .error p) :
    ∃ f : Field,
      p = .duplicate f ∧ p.message? = some ("duplicate field `".toList ++ f.key ++ "`".toList) ∨
      p = .missing f ∧ p.message? = some ("missing field `".toList ++ f.key ++ "`".toList) := by
  rcases read_cases h with ⟨f, -, e⟩ | ⟨f, -, e⟩ | ⟨m, -, e⟩
  · cases hr.symm.trans e
    exact ⟨f, .inl ⟨rfl, rfl⟩⟩
  · cases hr.symm.trans e
    exact ⟨f, .inr ⟨rfl, rfl⟩⟩
  · cases hr.symm.trans e

/-- Where no field is repeated, neither the order of the members nor those that are no fields
matter. -/
theorem read_eq_of_perm {es' : List Entry} {bs' : Bytes} (h : WritesObject es bs)
    (h' : WritesObject es' bs') (hn : (known es).fields.Nodup) (hp : (known es').Perm (known es)) :
    read bs' = read bs := by
  rcases read_cases h with ⟨f, hf, e⟩ | ⟨f, hf, e⟩ | ⟨m, hm, e⟩
  · exact absurd hn hf.not_nodup
  · rw [e, read_of_lacks h' (hf.perm hp.symm)]
  · rw [e, read_of_gives h' (hm.perm hp.symm)]

end

/-- **What becomes of an object.**  It is refused for the first member that repeats a field; else for
the first field that it lacks; else its members give the metadata.  As long as no field is repeated,
any object with the same fields, in whatever order and among whatever other members, is read alike;
and the metadata is what an array of its values is read as. -/
theorem read_object {es : List Entry} {bs : Bytes} (h : WritesObject es bs) :
    (∀ f, read bs = .error (.duplicate f) ↔ (known es).Repeats f) ∧
    (∀ f, read bs = .error (.missing f) ↔ (known es).Lacks f) ∧
    (∀ m, read bs = .ok m ↔ (known es).Gives m) ∧
    (∀ p, read bs = .error p → ∃ f : Field,
      p = .duplicate f ∧ p.message? = some ("duplicate field `".toList ++ f.key ++ "`".toList) ∨
      p = .missing f ∧ p.message? = some ("missing field `".toList ++ f.key ++ "`".toList)) ∧
    ((known es).fields.Nodup → ∀ es' bs', WritesObject es' bs' →
      (known es').Perm (known es) → read bs' = read bs) ∧
    ∀ m fs bs', read bs = .ok m → WritesArray m fs bs' →
      fs = Field.all ∨ m.version = none ∧ fs = [.buildString, .toolchain, .buildDate] →
        read bs' = read bs := by
  refine ⟨?_, ?_, ?_, ?_, ?_, ?_⟩
  · intro f
    exact read_eq_duplicate_iff h
  · intro f
    exact read_eq_missing_iff h
  · intro m
    exact read_eq_ok_iff h
  · intro p hr
    exact message_of_read h hr
  · intro hn es' bs' h' hp
    exact read_eq_of_perm h h' hn hp
  · intro m fs bs' hr ha hfs
    rw [hr, read_array ha hfs]

/-- A nested value is skipped, the version is null, and the members are not in their own order; an
array gives the same. -/
theorem read_object_nested :
    let es : List Entry :=
      [.other "x".toList (by decide), .known .buildDate (some ['d']) (by decide),
        .known .version none (by decide), .known .toolchain (some ['t']) (by decide),
        .known .buildString (some ['b']) (by decide)]
    let bs := ("\x7b\"x\":[\x7b\x7d,-0.5],\"build_date\":\"d\",\"semantic_version\":null," ++
      "\"toolchain_version\":\"t\",\"build_string\":\"b\"\x7d").toList.map octet
    let bs' := "[\"b\", \"t\", \"d\"]\n".toList.map octet
    WritesObject es bs ∧ read bs = .ok ⟨['b'], ['t'], ['d'], none⟩ ∧ read bs' = read bs := by
  intro es bs bs'
  have hno : Blanks [] := by decide
  have hentry : ∀ {e v}, WritesValue e v →
      WritesEntry e (Text.encode (quoted e.key) ++ ([] ++ octet ':' :: ([] ++ v))) :=
    fun h => .mk (writesText_quoted _) hno hno h
  have htext : ∀ t, WritesHeld (some t) (Text.encode (quoted t)) :=
    fun t => .text (writesText_quoted t)
  have hnested : Writes .value ("[\x7b\x7d,-0.5]".toList.map octet) := by
    have hdigits : Digits [octet '5'] := ⟨List.cons_ne_nil _ _, List.forall_mem_singleton.2 rfl⟩
    have hnumeral : IsNumeral ("-0.5".toList.map octet) := .negative .zero (.digits hdigits) .none
    exact .nested .array (.more (.element hno (.empty .object hno) hno)
      (.one (.element hno (.numeral hnumeral) hno)))
  have hobject : ∃ bs₁, bs₁ = bs ∧ WritesObject es bs₁ := by
    refine ⟨_, ?_, .mk hno (.inr (.more hno (hentry (.other hnested)) hno
      (.more hno (hentry (.known (htext _))) hno (.more hno (hentry (.known .null)) hno
        (.more hno (hentry (.known (htext _))) hno (.one hno (hentry (.known (htext _))) hno)))))) hno⟩
    decide
  have harray : ∃ bs₁, bs₁ = bs' ∧
      WritesArray ⟨['b'], ['t'], ['d'], none⟩ [.buildString, .toolchain, .buildDate] bs₁ := by
    have hblank : Blanks [octet ' '] := by decide
    refine ⟨_, ?_, .mk hno (.more hno (htext _) hno (.more hblank (htext _) hno
      (.one hblank (htext _) hno))) (r := [octet '\n']) (by decide)⟩
    decide
  obtain ⟨_, rfl, h⟩ := hobject
  obtain ⟨_, rfl, h'⟩ := harray
  obtain ⟨-, -, hok, -, -, hsame⟩ := read_object h
  have hgives : (known es).Gives ⟨['b'], ['t'], ['d'], none⟩ := by
    refine ⟨by decide, ?_, .inl (by decide)⟩
    intro f hf
    cases f with
    | buildString => decide
    | toolchain => decide
    | buildDate => decide
    | version => exact absurd rfl hf
  have hread := (hok _).2 hgives
  exact ⟨h, hread, hsame _ _ _ hread h' (.inr ⟨rfl, rfl⟩)⟩

end Imprint.Document
