import Imprint.Text

/-!
# Text — its lines, put together again

A list of lines is *lined* when each of them ends in its one newline, only that the last may lack
it and is then not empty.  The pieces of a text are lined (`lined_pieces`), and a list that is
lined is what the text it makes up is cut into (`pieces_flatten`).  So a text can be changed line
by line and cut again at the same places: `Lined.map` says which changes of single lines leave a
list lined.  And where one text ends its last line, or has none, the text after it begins with a line
of its own: the two together are cut as each of them is (`pieces_append`).
-/

namespace Imprint.Text

/-- A line with the newline that ends it, which is the only one it holds. -/
def IsEnded (p : Text) : Prop := ∃ body : Text, '\n' ∉ body ∧ p = body ++ ['\n']

/-- Lines one after the other; only the last may lack its newline, and then it is not empty. -/
inductive Lined : List Text → Prop where
  | nil : Lined []
  | rest {p : Text} (hp : p ≠ []) (hn : '\n' ∉ p) : Lined [p]
  | cons {p : Text} {ps : List Text} (hp : IsEnded p) (h : Lined ps) : Lined (p :: ps)

theorem IsEnded.ne_nil {p : Text} (h : IsEnded p) : p ≠ [] := by
  obtain ⟨body, -, rfl⟩ := h
  exact List.append_ne_nil_of_right_ne_nil body (List.cons_ne_nil '\n' [])

/-! ### The pieces of a text are lined -/

theorem lined_consPiece (c : Char) {ps : List Text} (h : Lined ps) : Lined (consPiece c ps) := by
  unfold consPiece
  split
  -- a newline is a piece of its own; any other character joins the first piece
  case isTrue hc => subst hc; exact .cons ⟨[], List.not_mem_nil, rfl⟩ h
  case isFalse hc =>
    have hc' : '\n' ∉ [c] := by simpa using fun e => hc e.symm
    cases h with
    | nil => exact .rest (List.cons_ne_nil c []) hc'
    | rest hp hn => exact .rest (List.cons_ne_nil _ _) (by simp_all)
    | cons hp h =>
        obtain ⟨body, hb, rfl⟩ := hp
        exact .cons ⟨c :: body, by simp_all, rfl⟩ h

/-- The pieces of a text are lines one after the other. -/
theorem lined_pieces : ∀ t : Text, Lined t.pieces
  | []     => .nil
  | c :: t => lined_consPiece c (lined_pieces t)

/-! ### Lined texts are cut between their lines -/

/-- A line in front of a text is its first piece. -/
theorem pieces_ended_append {p : Text} (hp : IsEnded p) (t : Text) :
    pieces (p ++ t) = p :: pieces t := by
  obtain ⟨body, hb, rfl⟩ := hp
  -- on the line without its newline, whose characters all join the piece after them
  induction body with
  | nil => rfl
  | cons c body ih =>
      have hc : c ≠ '\n' := fun e => hb (e ▸ List.mem_cons_self)
      rw [List.cons_append, List.cons_append, pieces_cons,
        ih fun h => hb (List.mem_cons_of_mem c h)]
      simp only [consPiece, if_neg hc]

theorem pieces_of_isEnded {p : Text} (hp : IsEnded p) : pieces p = [p] := by
  have h := pieces_ended_append hp []
  rwa [List.append_nil] at h

/-- A text without a newline is one piece. -/
theorem pieces_of_not_mem : ∀ {t : Text}, t ≠ [] → '\n' ∉ t → pieces t = [t]
  | [],          h, _  => absurd rfl h
  | [c],         _, hn => by
      have hc : c ≠ '\n' := fun e => hn (e ▸ List.mem_cons_self)
      simp only [pieces_cons, pieces_nil, consPiece, if_neg hc]
  | c :: d :: t, _, hn => by
      have hc : c ≠ '\n' := fun e => hn (e ▸ List.mem_cons_self)
      rw [pieces_cons, pieces_of_not_mem (List.cons_ne_nil d t) fun h => hn (.tail c h)]
      simp only [consPiece, if_neg hc]

theorem lined_of_isEnded : ∀ {ps : List Text}, (∀ p ∈ ps, IsEnded p) → Lined ps
  | [],     _ => .nil
  | _ :: _, h =>
    .cons (h _ List.mem_cons_self) (lined_of_isEnded fun q hq => h q (List.mem_cons_of_mem _ hq))

/-- Lines one after the other are the pieces of the text they make up. -/
theorem pieces_flatten {ps : List Text} (h : Lined ps) : pieces ps.flatten = ps := by
  induction h with
  | nil => rfl
  | rest hp hn => rw [List.flatten_singleton, pieces_of_not_mem hp hn]
  | cons hp _ ih => rw [List.flatten_cons, pieces_ended_append hp, ih]

/-! ### Texts one after the other -/

theorem pieces_ne_nil {t : Text} (h : t ≠ []) : pieces t ≠ [] := fun e =>
  h (by rw [← flatten_pieces t, e, List.flatten_nil])

/-- A character joins the first piece or is one by itself, whatever pieces are further on. -/
theorem consPiece_append (c : Char) {ps : List Text} (h : ps ≠ []) (qs : List Text) :
    consPiece c (ps ++ qs) = consPiece c ps ++ qs := by
  obtain ⟨p, ps, rfl⟩ := List.exists_cons_of_ne_nil h
  unfold consPiece
  split
  · rfl
  · rfl

/-- **A text after a newline is cut by itself.** -/
theorem pieces_append : ∀ {s : Text}, s = [] ∨ s.getLast? = some '\n' →
    ∀ t : Text, pieces (s ++ t) = pieces s ++ pieces t
  | [],          _, _ => rfl
  | [c],         h, t => by
      obtain rfl : c = '\n' := by simpa using h
      rfl
  | c :: d :: s, h, t => by
      have hd : (d :: s).getLast? = some '\n' := by simpa using h
      rw [List.cons_append, pieces_cons, pieces_append (.inr hd) t,
        consPiece_append c (pieces_ne_nil (List.cons_ne_nil d s)), ← pieces_cons]

theorem Lined.tail {p : Text} {ps : List Text} (h : Lined (p :: ps)) : Lined ps := by
  cases h with
  | rest => exact .nil
  | cons _ h => exact h

/-! ### Changing single lines -/

/-- Lines stay lined if each is kept or exchanged for one that ends in its newline. -/
theorem Lined.map {ps : List Text} (h : Lined ps) {g : Text → Text}
    (hg : ∀ p ∈ ps, g p = p ∨ IsEnded (g p)) : Lined (ps.map g) := by
  induction h with
  | nil => exact .nil
  | rest hp hn =>
      rcases hg _ List.mem_cons_self with e | he
      · rw [List.map_singleton, e]; exact .rest hp hn
      · exact .cons he .nil
  | @cons p ps hp _ ih =>
      have hp' : IsEnded (g p) := by
        rcases hg p List.mem_cons_self with e | he
        · rwa [e]
        · exact he
      exact .cons hp' (ih fun q hq => hg q (List.mem_cons_of_mem p hq))

theorem Lined.ne_nil_of_mem {ps : List Text} (h : Lined ps) : ∀ {p : Text}, p ∈ ps → p ≠ [] := by
  induction h with
  | nil => intro p hp; cases hp
  | rest hp _ => intro q hq; rwa [List.mem_singleton.1 hq]
  | cons hp _ ih =>
      intro q hq
      rcases List.mem_cons.1 hq with rfl | hq
      · exact hp.ne_nil
      · exact ih hq

end Imprint.Text
