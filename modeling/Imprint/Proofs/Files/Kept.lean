import Imprint.Files.Access
import Imprint.Proofs.Text.Utf8

/-!
# Files — what overwriting keeps

Overwriting through a path either fails or stores octets into the one node that the path leads to.

* `read_eq_ok` and `overwrite_eq_ok`: what is known where one of them succeeds.  Paths to the same
  place are read and overwritten alike (`read_congr`, `overwrite_congr`).  What can be read but not
  overwritten may not be written to (`overwrite_eq_error`).
* `Overwritten`: one tree is another with other octets in a file.  All other nodes are the same, the
  file keeps its place and its mode, and every path leads where it led.  A text stored in this way
  is read back (`Overwritten.readText`), and a second one takes its place (`Overwritten.again`).
* `SameShape`: two trees differ at most in the octets of their files.  This is what remains of
  `Overwritten` where it happens more than once (`Overwritten.sameShape`, `SameShape.trans`).
-/

namespace Imprint.Files

/-- A file, as against a directory or a link. -/
def Content.isFile : Content → Bool
  | .octets _            => true
  | .directory | .link _ => false

theorem Node.store_of_isFile {n : Node} (h : n.content.isFile) (bs : Bytes) :
    n.store bs = { n with content := .octets bs } := by
  obtain ⟨mode, _ | old | path⟩ := n
  · cases h
  · rfl
  · cases h

namespace Tree

variable {t t' t'' : Tree} {path path' bs bs' : Bytes} {text : Text}

/-! ### Paths that lead to the same node -/

section SamePlace

variable (h : t.place path true = t.place path' true)
include h

theorem find_congr : t.find path = t.find path' := by rw [find, find, h]

theorem read_congr : t.read path = t.read path' := by rw [read, read, find_congr h]

theorem readText_congr : t.readText path = t.readText path' := by
  rw [readText, readText, read_congr h]

theorem overwrite_congr (bs : Bytes) : t.overwrite path bs = t.overwrite path' bs := by
  rw [overwrite, overwrite, find_congr h]

end SamePlace

/-! ### Where reading and overwriting succeed -/

/-- A path that leads to a node leads to its location. -/
theorem find_eq_ok_iff {l : Location} {n : Node} :
    t.find path = .ok (l, n) ↔ t.place path true = .ok l ∧ t.node? l = some n := by
  unfold find
  cases hp : t.place path true with
  | error e =>
      constructor
      · intro h; cases h
      · rintro ⟨hl, -⟩; cases hl
  | ok l' =>
      constructor
      · intro h
        cases hn : t.node? l' with
        | none => simp only [hn] at h; cases h
        | some n' => simp only [hn] at h; cases h; exact ⟨rfl, hn⟩
      · rintro ⟨hl, hn⟩
        cases hl
        simp only [hn]

/-- What can be read is a file. -/
theorem read_eq_ok (h : t.read path = .ok bs) :
    ∃ l n, t.find path = .ok (l, n) ∧ n.content.isFile := by
  unfold read at h
  cases hf : t.find path with
  | error e => rw [hf] at h; cases h
  | ok found =>
      obtain ⟨l, mode, content⟩ := found
      refine ⟨l, ⟨mode, content⟩, rfl, ?_⟩
      rw [hf] at h
      cases hr : mode.read with
      | false => simp [hr] at h
      | true =>
          cases content with
          | directory => simp [hr] at h
          | link path => simp [hr] at h
          | octets old => rfl

/-- A text that can be read is that of octets which can be read. -/
theorem readText_eq_ok (h : t.readText path = .ok text) :
    ∃ bs, t.read path = .ok bs ∧ bs.decode? = some text := by
  unfold readText at h
  split at h
  · cases h
  case h_2 bs hr =>
    split at h
    case h_1 text' hd => cases h; exact ⟨bs, hr, hd⟩
    case h_2 => cases h

/-- Where overwriting succeeds, the octets were stored into the node that the path leads to. -/
theorem overwrite_eq_ok (h : t.overwrite path bs = .ok t') :
    ∃ l n, t.find path = .ok (l, n) ∧ t' = t.store l bs := by
  unfold overwrite at h
  split at h
  · cases h
  · cases h
  case h_3 l mode content _ hf =>
    split at h
    case isTrue hw => cases h; exact ⟨l, ⟨mode, content⟩, hf, rfl⟩
    case isFalse => cases h

/-- Where a file that can be read cannot be overwritten, it may not be written to. -/
theorem overwrite_eq_error {old : Bytes} {e : Error} (hr : t.read path = .ok old)
    (h : t.overwrite path bs = .error e) :
    e = .permissionDenied ∧ ∃ l n, t.find path = .ok (l, n) ∧ n.mode.write = false := by
  obtain ⟨l, ⟨mode, content⟩, hf, hn⟩ := read_eq_ok hr
  unfold overwrite at h
  simp only [hf] at h
  split at h
  case h_1 he => cases he
  case h_2 he => cases he; cases hn
  case h_3 he =>
    cases he
    split at h
    case isTrue => cases h
    case isFalse hw => cases h; exact ⟨rfl, l, _, hf, Bool.eq_false_iff.2 hw⟩

/-! ### One file, overwritten -/

/-- `t'` is `t` but for the file that the path leads to, which holds the octets now and has its
mode still. -/
structure Overwritten (t : Tree) (path bs : Bytes) (t' : Tree) : Prop where
  file     : ∃ l n, n.content.isFile ∧ t.find path = .ok (l, n) ∧
    t'.find path = .ok (l, { n with content := .octets bs }) ∧
    ∀ l', l' ≠ l → t'.node? l' = t.node? l'
  place    : ∀ p follow, t'.place p follow = t.place p follow
  work     : t'.work = t.work
  programs : t'.programs = t.programs

/-- **Overwriting changes one file.**  A file that can be read and overwritten holds the new octets
afterwards, and nothing else is changed. -/
theorem overwritten_of_overwrite {old : Bytes} (hr : t.read path = .ok old)
    (h : t.overwrite path bs = .ok t') : t.Overwritten path bs t' := by
  obtain ⟨l, n, hf, rfl⟩ := overwrite_eq_ok h
  obtain ⟨l', n', hf', hn⟩ := read_eq_ok hr
  obtain ⟨rfl, rfl⟩ : l' = l ∧ n' = n := by
    rw [hf] at hf'
    cases hf'
    exact ⟨rfl, rfl⟩
  obtain ⟨hp, hl⟩ := find_eq_ok_iff.1 hf
  refine ⟨⟨l', n', hn, hf, find_eq_ok_iff.2 ⟨?_, ?_⟩, fun l hne => ?_⟩,
    t.place_store l' bs, rfl, rfl⟩
  · rw [place_store, hp]
  · rw [node?_store, if_pos rfl, hl, Option.map_some, Node.store_of_isFile hn]
  · rw [node?_store, if_neg hne]

/-- What was overwritten can be read, if the file could be read before. -/
theorem Overwritten.read {old : Bytes} (h : t.Overwritten path bs t') (hr : t.read path = .ok old) :
    t'.read path = .ok bs := by
  obtain ⟨l, ⟨mode, content⟩, -, hf, hf', -⟩ := h.file
  rw [Tree.read, hf] at hr
  rw [Tree.read, hf']
  cases hm : mode.read with
  | false => simp [hm] at hr
  | true => simp [hm]

/-- A text that was stored is read back. -/
theorem Overwritten.readText {old : Text} (h : t.Overwritten path text.encode t')
    (hr : t.readText path = .ok old) : t'.readText path = .ok text := by
  obtain ⟨bs, hr, -⟩ := readText_eq_ok hr
  rw [Tree.readText, h.read hr]
  simp only [Bytes.decode?_encode]

/-- Of two overwritings of the same file, the second is left. -/
theorem Overwritten.again (h : t.Overwritten path bs t') (h' : t'.Overwritten path bs' t'') :
    t.Overwritten path bs' t'' := by
  obtain ⟨l, n, hn, hf, hf', hl⟩ := h.file
  obtain ⟨l', n', -, hg, hg', hl'⟩ := h'.file
  obtain ⟨rfl, rfl⟩ : l = l' ∧ { n with content := .octets bs } = n' := by
    rw [hf'] at hg
    cases hg
    exact ⟨rfl, rfl⟩
  exact ⟨⟨l, n, hn, hf, hg', fun k hk => (hl' k hk).trans (hl k hk)⟩,
    fun p follow => (h'.place p follow).trans (h.place p follow), h'.work.trans h.work,
    h'.programs.trans h.programs⟩

/-! ### The shape of a tree -/

/-- Two trees have the same nodes at the same locations, but for the octets in their files, and
every path leads to the same location in both. -/
structure SameShape (t t' : Tree) : Prop where
  node     : ∀ l, (t'.node? l).map (·.store []) = (t.node? l).map (·.store [])
  place    : ∀ p follow, t'.place p follow = t.place p follow
  work     : t'.work = t.work
  programs : t'.programs = t.programs

theorem SameShape.refl (t : Tree) : t.SameShape t :=
  ⟨fun _ => rfl, fun _ _ => rfl, rfl, rfl⟩

theorem SameShape.trans (h : t.SameShape t') (h' : t'.SameShape t'') : t.SameShape t'' where
  node l         := (h'.node l).trans (h.node l)
  place p follow := (h'.place p follow).trans (h.place p follow)
  work           := h'.work.trans h.work
  programs       := h'.programs.trans h.programs

theorem Overwritten.sameShape (h : t.Overwritten path bs t') : t.SameShape t' := by
  refine ⟨fun l' => ?_, h.place, h.work, h.programs⟩
  obtain ⟨l, n, hn, hf, hf', hl⟩ := h.file
  by_cases e : l' = l
  · subst e
    rw [(find_eq_ok_iff.1 hf).2, (find_eq_ok_iff.1 hf').2, Option.map_some, Option.map_some,
      Node.store_of_isFile hn, Node.store_of_isFile (n := { n with content := .octets bs }) rfl]
  · rw [hl l' e]

end Tree

end Imprint.Files
