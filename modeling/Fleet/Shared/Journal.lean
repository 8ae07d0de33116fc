import Mathlib.Data.List.Nodup

set_option autoImplicit false

namespace Fleet.Journal

universe u v

variable {Key : Type u} {Update : Type v} [DecidableEq Key]

-- A log of updates to many cells, and what it holds for one of them.
def of (k : Key) (journal : List (Key × Update)) : List Update :=
  (journal.filter fun entry => entry.1 = k).map Prod.snd

@[simp]
theorem of_append (k : Key) (early late : List (Key × Update)) :
    of k (early ++ late) = of k early ++ of k late := by
  simp [of]

theorem of_eq_nil {k : Key} {batch : List (Key × Update)}
    (absent : ∀ entry ∈ batch, entry.1 ≠ k) : of k batch = [] := by
  simpa [of] using absent

-- A batch that touches no cell twice holds at most one update for each.
theorem of_eq_singleton {batch : List (Key × Update)} (distinct : (batch.map Prod.fst).Nodup)
    {entry : Key × Update} (member : entry ∈ batch) : of entry.1 batch = [entry.2] := by
  induction batch with
  | nil => cases member
  | cons head rest ih =>
      obtain ⟨fresh, distinct⟩ := List.nodup_cons.1 distinct
      rcases List.mem_cons.1 member with rfl | later
      · have others : of entry.1 rest = [] :=
          of_eq_nil fun other present same => fresh (same ▸ List.mem_map_of_mem present)
        simpa [of] using others
      · have apart : head.1 ≠ entry.1 := fun same => fresh (same ▸ List.mem_map_of_mem later)
        simpa [of, apart] using ih distinct later

end Fleet.Journal
