import Imprint.Proofs.Files.Kept

/-!
# Files — what lies apart

Storing into the node at one location is not seen through a path that does not lead there: what is
read is the same (`read_store`), and what is overwritten is overwritten in the same way, before or
after (`overwrite_store`).  Paths that do not lead to one place are `Apart`.
-/

namespace Imprint.Files.Tree

variable {t : Tree} {path path' bs bs' : Bytes} {l l' : Location}

/-- The paths do not lead to the same place; one of them, or both, may lead nowhere. -/
def Apart (t : Tree) (path path' : Bytes) : Prop :=
  ∀ l, t.place path true = .ok l → t.place path' true ≠ .ok l

theorem Apart.symm (h : t.Apart path path') : t.Apart path' path := fun l hl hl' => h l hl' hl

theorem apart_of_ne (h : t.place path true ≠ t.place path' true) : t.Apart path path' :=
  fun _ hl hl' => h (hl.trans hl'.symm)

/-- What is stored into different nodes may be stored in any order. -/
theorem store_comm (h : l ≠ l') (bs bs' : Bytes) :
    (t.store l bs).store l' bs' = (t.store l' bs').store l bs := by
  obtain ⟨nodes, work, programs⟩ := t
  simp only [store, List.map_map, mk.injEq, and_true]
  refine List.map_congr_left fun e _ => ?_
  obtain ⟨k, n⟩ := e
  simp only [Function.comp_apply]
  by_cases hk : k = l
  · subst hk
    simp [h]
  · by_cases hk' : k = l'
    · subst hk'
      simp [Ne.symm h]
    · simp [hk, hk']

section Elsewhere

variable (h : t.place path true ≠ .ok l)
include h

theorem find_store (bs : Bytes) : (t.store l bs).find path = t.find path := by
  unfold find
  rw [place_store]
  cases hp : t.place path true with
  | error e => rfl
  | ok k =>
      have hk : k ≠ l := fun e => h (e ▸ hp)
      simp only [node?_store, if_neg hk]

theorem read_store (bs : Bytes) : (t.store l bs).read path = t.read path := by
  rw [read, read, find_store h]

theorem readText_store (bs : Bytes) : (t.store l bs).readText path = t.readText path := by
  rw [readText, readText, read_store h]

/-- Overwriting does not see what was stored elsewhere, and leaves it there. -/
theorem overwrite_store (bs bs' : Bytes) :
    (t.store l bs).overwrite path bs' = (t.overwrite path bs').map (·.store l bs) := by
  unfold overwrite
  rw [find_store h]
  split
  · rfl
  · rfl
  case h_3 k mode content _ hf =>
    have hk : l ≠ k := fun e => h (e ▸ (find_eq_ok_iff.1 hf).1)
    split
    · rw [store_comm hk]; rfl
    · rfl

end Elsewhere

end Imprint.Files.Tree
