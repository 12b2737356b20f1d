import Imprint.Text.Utf8

/-!
# Text — encoded and decoded

Reading what `Text.encode` writes brings out the characters that were written, with nothing owed at
the end, whatever follows (`Utf8.pieces_encode_append`); so `Bytes.decode?` undoes `Text.encode`
(`Bytes.decode?_encode`).  And octets that bring out a character begin with what that character is
written as (`Utf8.pieces_eq_cons`); so nothing is decoded but what was encoded
(`Bytes.eq_encode_of_decode?`).

Both proofs go by the number of octets of a character.  The first octet says how many follow and
bounds the second (`first_one` to `first_four`); each that follows brings six bits (`next_more`,
`next_last`).
-/

namespace Imprint

namespace Utf8

/-! ### The octets of a character -/

theorem first_one : ∀ k < 0x80, first (UInt8.ofNat k) = ([some (Char.ofNat k)], .nothing) := by
  decide

theorem first_two :
    ∀ k < 0x20, 2 ≤ k → first (UInt8.ofNat (k + 0xc0)) = ([], .more k 0 0x80 0xbf) := by
  decide

theorem first_three : ∀ k < 0x10, first (UInt8.ofNat (k + 0xe0)) =
    ([], .more k 1 (if k = 0 then 0xa0 else 0x80) (if k = 0xd then 0x9f else 0xbf)) := by
  decide

theorem first_four : ∀ k < 5, first (UInt8.ofNat (k + 0xf0)) =
    ([], .more k 2 (if k = 0 then 0x90 else 0x80) (if k = 4 then 0x8f else 0xbf)) := by
  decide

section Continuation

variable {k value left : Nat} {low high : UInt8} (hk : k < 64) (hl : low.toNat ≤ k + 0x80)
  (hh : k + 0x80 ≤ high.toNat)
include hk hl hh

/-- An octet within the bounds brings six more bits. -/
theorem next_more : next (.more value (left + 1) low high) (UInt8.ofNat (k + 0x80)) =
    ([], .more (64 * value + k) left 0x80 0xbf) := by
  have hn : (UInt8.ofNat (k + 0x80)).toNat = k + 0x80 :=
    UInt8.toNat_ofNat_of_lt' (by rw [UInt8.size]; omega)
  simp only [next, UInt8.le_iff_toNat_le, hn, hl, hh, and_self, ↓reduceIte, Nat.add_sub_cancel]

/-- The last octet of a character brings it out. -/
theorem next_last : next (.more value 0 low high) (UInt8.ofNat (k + 0x80)) =
    ([some (Char.ofNat (64 * value + k))], .nothing) := by
  have hn : (UInt8.ofNat (k + 0x80)).toNat = k + 0x80 :=
    UInt8.toNat_ofNat_of_lt' (by rw [UInt8.size]; omega)
  simp only [next, UInt8.le_iff_toNat_le, hn, hl, hh, and_self, ↓reduceIte, Nat.add_sub_cancel]

end Continuation

/-- The octets of a character bring out that character. -/
theorem piecesFrom_encodeChar (c : Char) (bs : Bytes) :
    piecesFrom [] .nothing (String.utf8EncodeChar c ++ bs) =
      some c :: piecesFrom [] .nothing bs := by
  have hc : Char.ofNat c.val.toNat = c := c.ofNat_toNat
  have hv : c.val.toNat < 0xd800 ∨ 0xdfff < c.val.toNat ∧ c.val.toNat < 0x110000 := c.valid
  generalize hn : c.val.toNat = n at hc hv
  simp only [String.utf8EncodeChar, hn]
  -- one octet, two, three or four, by the size of `n`; the bounds on the second of three or four
  -- hold because `n` is no surrogate and not too large
  split
  case isTrue h₁ =>
    rw [List.singleton_append, piecesFrom_cons, next, first_one n (by omega), hc]
    rfl
  case isFalse h₁ =>
  split
  case isTrue h₂ =>
    have hsum : 64 * (n / 64 % 32) + n % 64 = n := by omega
    rw [List.cons_append, List.singleton_append, piecesFrom_cons, next,
      first_two (n / 64 % 32) (by omega) (by omega), piecesFrom_cons,
      next_last (by omega) (by simp) (by simp; omega), hsum, hc]
    rfl
  case isFalse h₂ =>
  split
  case isTrue h₃ =>
    have hsum : 64 * (64 * (n / 4096 % 16) + n / 64 % 64) + n % 64 = n := by omega
    rw [List.cons_append, List.cons_append, List.singleton_append, piecesFrom_cons, next,
      first_three (n / 4096 % 16) (by omega), piecesFrom_cons, next_more (by omega) ?_ ?_,
      piecesFrom_cons, next_last (by omega) (by simp) (by simp; omega), hsum, hc]
    · rfl
    · split <;> simp; omega
    · split <;> simp <;> omega
  case isFalse h₃ =>
    have hsum : 64 * (64 * (64 * (n / 262144 % 8) + n / 4096 % 64) + n / 64 % 64) + n % 64 = n := by
      omega
    rw [List.cons_append, List.cons_append, List.cons_append, List.singleton_append,
      piecesFrom_cons, next, first_four (n / 262144 % 8) (by omega), piecesFrom_cons,
      next_more (by omega) ?_ ?_, piecesFrom_cons, next_more (by omega) (by simp) (by simp; omega),
      piecesFrom_cons, next_last (by omega) (by simp) (by simp; omega), hsum, hc]
    · rfl
    · split <;> simp; omega
    · split <;> simp <;> omega

/-- A character of ASCII is one octet. -/
theorem encodeChar_of_lt {c : Char} (h : c.toNat < 0x80) : String.utf8EncodeChar c = [octet c] := by
  have hv : c.val.toNat ≤ 0x7f := Nat.le_of_lt_succ h
  simp only [String.utf8EncodeChar, if_pos hv]
  rfl

/-- No octet of another character is one of ASCII. -/
theorem le_of_mem_encodeChar {c : Char} (h : 0x80 ≤ c.toNat) :
    ∀ b ∈ String.utf8EncodeChar c, 0x80 ≤ b.toNat := by
  have hv : ¬ c.val.toNat ≤ 0x7f := Nat.not_le_of_gt h
  simp only [String.utf8EncodeChar, if_neg hv]
  split
  · simp; omega
  · split
    · simp; omega
    · simp; omega

theorem toNat_octet {c : Char} (h : c.toNat < 0x80) : (octet c).toNat = c.toNat :=
  UInt8.toNat_ofNat_of_lt' (by rw [UInt8.size]; omega)

/-- The octet of a character of ASCII is in no other character. -/
theorem octet_mem_encodeChar_iff {a c : Char} (ha : a.toNat < 0x80) :
    octet a ∈ String.utf8EncodeChar c ↔ c = a := by
  constructor
  · intro h
    rcases Nat.lt_or_ge c.toNat 0x80 with hlt | hge
    · rw [encodeChar_of_lt hlt, List.mem_singleton] at h
      exact Char.toNat_inj.1 (by rw [← toNat_octet hlt, ← h, toNat_octet ha])
    · have hle := le_of_mem_encodeChar hge _ h
      rw [toNat_octet ha] at hle
      omega
  · rintro rfl
    rw [encodeChar_of_lt ha]
    exact List.mem_singleton.2 rfl

/-! ### The octets of a text -/

/-- What a text is encoded to brings out its characters, and what follows it is read afresh. -/
theorem pieces_encode_append (bs : Bytes) :
    ∀ t : Text, pieces (t.encode ++ bs) = t.map some ++ pieces bs
  | []     => rfl
  | c :: t => by
      rw [Text.encode, List.flatMap_cons, List.append_assoc, pieces, piecesFrom_encodeChar]
      exact congrArg (some c :: ·) (pieces_encode_append bs t)

theorem pieces_encode (t : Text) : pieces t.encode = t.map some := by
  have h := pieces_encode_append [] t
  rwa [List.append_nil, show pieces [] = [] from rfl, List.append_nil] at h

/-! ### Octets that bring out a character -/

theorem first_stray : ∀ k < 0x42, first (UInt8.ofNat (k + 0x80)) = ([none], .nothing) := by
  decide

theorem first_beyond : ∀ k < 0xb, first (UInt8.ofNat (k + 0xf5)) = ([none], .nothing) := by
  decide

theorem toNat_val_ofNat {n : Nat} (h : n.isValidChar) : (Char.ofNat n).val.toNat = n := by
  rw [Char.ofNat, dif_pos h]
  rfl

theorem encodeChar_one {n : Nat} (hn : n < 0x80) :
    String.utf8EncodeChar (Char.ofNat n) = [UInt8.ofNat n] := by
  have hv : n.isValidChar := .inl (by omega)
  simp only [String.utf8EncodeChar, toNat_val_ofNat hv]
  exact if_pos (by omega)

theorem encodeChar_two {a k : Nat} (ha : 2 ≤ a) (ha' : a < 0x20) (hk : k < 64) :
    String.utf8EncodeChar (Char.ofNat (64 * a + k)) =
      [UInt8.ofNat (a + 0xc0), UInt8.ofNat (k + 0x80)] := by
  generalize hn : 64 * a + k = n
  have hv : n.isValidChar := .inl (by omega)
  have h₁ : n / 64 % 32 = a := by omega
  have h₂ : n % 64 = k := by omega
  simp only [String.utf8EncodeChar, toNat_val_ofNat hv]
  rw [if_neg (by omega), if_pos (by omega), h₁, h₂]

theorem encodeChar_three {a k l : Nat} (ha : a < 0x10) (hk : k < 64) (hl : l < 64)
    (h₀ : a = 0 → 0x20 ≤ k) (hd : a = 0xd → k < 0x20) :
    String.utf8EncodeChar (Char.ofNat (64 * (64 * a + k) + l)) =
      [UInt8.ofNat (a + 0xe0), UInt8.ofNat (k + 0x80), UInt8.ofNat (l + 0x80)] := by
  generalize hn : 64 * (64 * a + k) + l = n
  -- the bound on `k` keeps the surrogates out
  have hv : n < 0xd800 ∨ 0xdfff < n ∧ n < 0x110000 := by omega
  have h₁ : n / 4096 % 16 = a := by omega
  have h₂ : n / 64 % 64 = k := by omega
  have h₃ : n % 64 = l := by omega
  simp only [String.utf8EncodeChar, toNat_val_ofNat hv]
  rw [if_neg (by omega), if_neg (by omega), if_pos (by omega), h₁, h₂, h₃]

theorem encodeChar_four {a k l o : Nat} (ha : a < 5) (hk : k < 64) (hl : l < 64) (ho : o < 64)
    (h₀ : a = 0 → 0x10 ≤ k) (hd : a = 4 → k < 0x10) :
    String.utf8EncodeChar (Char.ofNat (64 * (64 * (64 * a + k) + l) + o)) =
      [UInt8.ofNat (a + 0xf0), UInt8.ofNat (k + 0x80), UInt8.ofNat (l + 0x80),
        UInt8.ofNat (o + 0x80)] := by
  generalize hn : 64 * (64 * (64 * a + k) + l) + o = n
  have hv : n < 0xd800 ∨ 0xdfff < n ∧ n < 0x110000 := by omega
  have h₁ : n / 262144 % 8 = a := by omega
  have h₂ : n / 4096 % 64 = k := by omega
  have h₃ : n / 64 % 64 = l := by omega
  have h₄ : n % 64 = o := by omega
  simp only [String.utf8EncodeChar, toNat_val_ofNat hv]
  rw [if_neg (by omega), if_neg (by omega), if_neg (by omega), h₁, h₂, h₃, h₄]

section Inversion

variable {bs : Bytes} {c : Char} {ps : List Piece} {value left : Nat} {low high : UInt8}

/-- A character that is begun and comes out goes on with an octet within the bounds. -/
theorem exists_continuation (hl : 0x80 ≤ low.toNat) (hh : high.toNat ≤ 0xbf)
    (h : piecesFrom [] (.more value left low high) bs = some c :: ps) :
    ∃ k rest, bs = UInt8.ofNat (k + 0x80) :: rest ∧ k < 64 ∧ low.toNat ≤ k + 0x80 ∧
      k + 0x80 ≤ high.toNat := by
  cases bs with
  | nil => cases h
  | cons b bs =>
      by_cases hb : low ≤ b ∧ b ≤ high
      · rw [UInt8.le_iff_toNat_le, UInt8.le_iff_toNat_le] at hb
        have hk : b.toNat - 0x80 + 0x80 = b.toNat := by omega
        exact ⟨b.toNat - 0x80, bs, by rw [hk, UInt8.ofNat_toNat], by omega, by omega, by omega⟩
      · rw [piecesFrom_cons, next, if_neg hb] at h
        cases h

theorem piecesFrom_more_inv (hl : 0x80 ≤ low.toNat) (hh : high.toNat ≤ 0xbf)
    (h : piecesFrom [] (.more value (left + 1) low high) bs = some c :: ps) :
    ∃ k rest, bs = UInt8.ofNat (k + 0x80) :: rest ∧ k < 64 ∧ low.toNat ≤ k + 0x80 ∧
      k + 0x80 ≤ high.toNat ∧
      piecesFrom [] (.more (64 * value + k) left 0x80 0xbf) rest = some c :: ps := by
  obtain ⟨k, rest, rfl, hk, hlow, hhigh⟩ := exists_continuation hl hh h
  rw [piecesFrom_cons, next_more hk hlow hhigh] at h
  exact ⟨k, rest, rfl, hk, hlow, hhigh, h⟩

theorem piecesFrom_last_inv (h : piecesFrom [] (.more value 0 0x80 0xbf) bs = some c :: ps) :
    ∃ k rest, bs = UInt8.ofNat (k + 0x80) :: rest ∧ k < 64 ∧ c = Char.ofNat (64 * value + k) ∧
      pieces rest = ps := by
  obtain ⟨k, rest, rfl, hk, hlow, hhigh⟩ := exists_continuation (by decide) (by decide) h
  rw [piecesFrom_cons, next_last hk hlow hhigh] at h
  obtain ⟨hc, hps⟩ := List.cons.inj h
  exact ⟨k, rest, rfl, hk, (Option.some.inj hc).symm, hps⟩

/-- **Octets that bring out a character first begin with that character.** -/
theorem pieces_eq_cons (h : pieces bs = some c :: ps) :
    ∃ rest, bs = String.utf8EncodeChar c ++ rest ∧ pieces rest = ps := by
  cases bs with
  | nil => cases h
  | cons b bs =>
  obtain ⟨n, hn, rfl⟩ : ∃ n < 0x100, b = UInt8.ofNat n :=
    ⟨b.toNat, b.toNat_lt, UInt8.ofNat_toNat.symm⟩
  rw [pieces, piecesFrom_cons, next] at h
  -- by what the first octet begins: a character of one octet to four, or none
  rcases Nat.lt_or_ge n 0x80 with h₁ | h₁
  · rw [first_one n h₁] at h
    obtain ⟨hc, hps⟩ := List.cons.inj h
    exact ⟨bs, by rw [← Option.some.inj hc, encodeChar_one h₁]; rfl, hps⟩
  rcases Nat.lt_or_ge n 0xc2 with h₂ | h₂
  · obtain ⟨k, rfl⟩ := Nat.exists_eq_add_of_le' h₁
    rw [first_stray k (by omega)] at h
    cases h
  rcases Nat.lt_or_ge n 0xe0 with h₃ | h₃
  · obtain ⟨a, rfl⟩ := Nat.exists_eq_add_of_le' (Nat.le_trans (by decide : 0xc0 ≤ 0xc2) h₂)
    rw [first_two a (by omega) (by omega)] at h
    obtain ⟨k, rest, rfl, hk, rfl, hps⟩ := piecesFrom_last_inv h
    exact ⟨rest, by rw [encodeChar_two (by omega) (by omega) hk]; rfl, hps⟩
  rcases Nat.lt_or_ge n 0xf0 with h₄ | h₄
  · obtain ⟨a, rfl⟩ := Nat.exists_eq_add_of_le' h₃
    rw [first_three a (by omega)] at h
    obtain ⟨k, rest, rfl, hk, hlow, hhigh, h⟩ :=
      piecesFrom_more_inv (by split <;> decide) (by split <;> decide) h
    obtain ⟨l, rest, rfl, hl, rfl, hps⟩ := piecesFrom_last_inv h
    refine ⟨rest, ?_, hps⟩
    rw [encodeChar_three (by omega) hk hl ?_ ?_]
    · rfl
    · rintro rfl
      simpa using hlow
    · rintro rfl
      exact Nat.lt_succ_of_le (Nat.le_of_add_le_add_right hhigh)
  rcases Nat.lt_or_ge n 0xf5 with h₅ | h₅
  · obtain ⟨a, rfl⟩ := Nat.exists_eq_add_of_le' h₄
    rw [first_four a (by omega)] at h
    obtain ⟨k, rest, rfl, hk, hlow, hhigh, h⟩ :=
      piecesFrom_more_inv (by split <;> decide) (by split <;> decide) h
    obtain ⟨l, rest, rfl, hl, -, -, h⟩ := piecesFrom_more_inv (by decide) (by decide) h
    obtain ⟨o, rest, rfl, ho, rfl, hps⟩ := piecesFrom_last_inv h
    refine ⟨rest, ?_, hps⟩
    rw [encodeChar_four (by omega) hk hl ho ?_ ?_]
    · rfl
    · rintro rfl
      simpa using hlow
    · rintro rfl
      exact Nat.lt_succ_of_le (Nat.le_of_add_le_add_right hhigh)
  · obtain ⟨k, rfl⟩ := Nat.exists_eq_add_of_le' h₅
    rw [first_beyond k (by omega)] at h
    cases h

/-- A first octet is a piece of its own or begins a character. -/
theorem first_cases (b : UInt8) :
    (∃ p, first b = ([p], .nothing)) ∨
      ∃ value left low high, first b = ([], .more value left low high) := by
  generalize hr : first b = r
  unfold first at hr
  repeat' split at hr
  all_goals
    subst hr
    first
    | exact .inl ⟨_, rfl⟩
    | exact .inr ⟨_, _, _, _, rfl⟩

/-- After an octet that brings out nothing, something is owed. -/
theorem next_snd_ne_nothing {owed : Owed} {b : UInt8} (h : (next owed b).1 = []) :
    (next owed b).2 ≠ .nothing := by
  cases owed with
  | nothing =>
      rcases first_cases b with ⟨p, e⟩ | ⟨value, left, low, high, e⟩
      · simp [next, e] at h
      · simp [next, e]
  | more value left low high =>
      by_cases hb : low ≤ b ∧ b ≤ high
      · cases left with
        | zero => simp [next, hb] at h
        | succ left => simp [next, hb]
      · simp [next, hb] at h

/-- Only where there are no octets and none are owed, nothing comes out. -/
theorem eq_nil_of_piecesFrom_eq_nil :
    ∀ {bs : Bytes} {owed : Owed}, piecesFrom [] owed bs = [] → owed = .nothing ∧ bs = []
  | [],      .nothing,  _ => ⟨rfl, rfl⟩
  | [],      .more ..,  h => by cases h
  | b :: bs, owed,      h => by
      rw [piecesFrom_cons, List.append_eq_nil_iff] at h
      exact absurd (eq_nil_of_piecesFrom_eq_nil h.2).1 (next_snd_ne_nothing h.1)

/-- Octets that bring out characters alone are a text, encoded. -/
theorem eq_encode_of_pieces : ∀ {t : Text} {bs : Bytes}, pieces bs = t.map some → bs = t.encode
  | [],     _, h => (eq_nil_of_piecesFrom_eq_nil h).2
  | c :: t, _, h => by
      obtain ⟨rest, rfl, hrest⟩ := pieces_eq_cons h
      rw [eq_encode_of_pieces hrest]
      rfl

end Inversion

end Utf8

theorem Text.octet_mem_encode_iff {a : Char} (ha : a.toNat < 0x80) {t : Text} :
    octet a ∈ t.encode ↔ a ∈ t := by
  simp only [encode, List.mem_flatMap, Utf8.octet_mem_encodeChar_iff ha, exists_eq_right]

theorem Text.encode_ne_nil {t : Text} (h : t ≠ []) : t.encode ≠ [] := by
  obtain ⟨c, r, rfl⟩ := List.exists_cons_of_ne_nil h
  have hc : String.utf8EncodeChar c ≠ [] := String.utf8EncodeChar_ne_nil
  simp [encode, hc]

/-- A text begins with a character of ASCII where its octets do. -/
theorem Text.head?_encode_eq_iff {a : Char} (ha : a.toNat < 0x80) {t : Text} :
    t.encode.head? = some (octet a) ↔ t.head? = some a := by
  cases t with
  | nil => simp
  | cons c t =>
      obtain ⟨b, bs, hb⟩ := List.exists_cons_of_ne_nil (String.utf8EncodeChar_ne_nil (c := c))
      have hhead : (encode (c :: t)).head? = some b := by
        rw [encode, List.flatMap_cons, hb]
        rfl
      rw [hhead, List.head?_cons, Option.some_inj, Option.some_inj]
      constructor
      · rintro rfl
        exact (Utf8.octet_mem_encodeChar_iff ha).1 (hb ▸ List.mem_cons_self)
      · rintro rfl
        rw [Utf8.encodeChar_of_lt ha] at hb
        exact (List.cons.inj hb).1.symm

/-- **What is encoded can be decoded.** -/
theorem Bytes.decode?_encode (t : Text) : Bytes.decode? t.encode = some t := by
  rw [Bytes.decode?, Utf8.pieces_encode, List.foldr_map]
  induction t with
  | nil => rfl
  | cons c t ih => rw [List.foldr_cons, ih]; rfl

theorem Utf8.eq_map_of_foldr : ∀ {ps : List Piece} {t : Text},
    ps.foldr (fun p t => do return (← p) :: (← t)) (some []) = some t → ps = t.map some
  | [],           t, h => by cases h; rfl
  | none :: _,    t, h => by cases h
  | some c :: ps, t, h => by
      rw [List.foldr_cons] at h
      cases hr : ps.foldr (fun p t => do return (← p) :: (← t)) (some []) with
      | none => rw [hr] at h; cases h
      | some t' =>
          rw [hr] at h
          cases h
          rw [eq_map_of_foldr hr]
          rfl

/-- **Nothing is decoded but what was encoded.** -/
theorem Bytes.eq_encode_of_decode? {bs : Bytes} {t : Text} (h : bs.decode? = some t) :
    bs = t.encode :=
  Utf8.eq_encode_of_pieces (Utf8.eq_map_of_foldr h)

end Imprint
