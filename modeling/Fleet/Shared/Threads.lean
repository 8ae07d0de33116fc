import Mathlib.Data.Finset.Card
import Mathlib.Data.Fintype.Basic
import Mathlib.Logic.Function.Basic

set_option autoImplicit false

namespace Fleet.Threads

universe u v

variable {Thread : Type u} [DecidableEq Thread] {Stage : Type v} {inside : Stage → Prop}
  {threads : Thread → Stage}

/-- At most one thread is in a stage of the region. -/
def AtMostOne (inside : Stage → Prop) (threads : Thread → Stage) : Prop :=
  ∀ t u, inside (threads t) → inside (threads u) → t = u

theorem AtMostOne.stay (one : AtMostOne inside threads) (t : Thread) {stage : Stage}
    (already : inside stage → inside (threads t)) :
    AtMostOne inside (Function.update threads t stage) := by
  have earlier (u : Thread) (there : inside (Function.update threads t stage u)) :
      inside (threads u) := by
    by_cases same : u = t
    · subst u
      exact already (by simpa using there)
    · simpa [same] using there
  intro u v first second
  exact one u v (earlier u first) (earlier v second)

theorem AtMostOne.enter {t : Thread} (empty : ∀ u, u ≠ t → ¬ inside (threads u)) (stage : Stage) :
    AtMostOne inside (Function.update threads t stage) := by
  have only (u : Thread) (there : inside (Function.update threads t stage u)) : u = t := by
    by_contra different
    exact empty u different (by simpa [different] using there)
  intro u v first second
  rw [only u first, only v second]

/-- How many threads are in a stage of the region. -/
def count [Fintype Thread] (region : Stage → Bool) (threads : Thread → Stage) : Nat :=
  (Finset.univ.filter fun t => region (threads t) = true).card

-- What a move of one thread does to the count, free of subtraction.
theorem count_update [Fintype Thread] (region : Stage → Bool) (threads : Thread → Stage)
    (t : Thread) (stage : Stage) :
    count region (Function.update threads t stage) + (region (threads t)).toNat =
      count region threads + (region stage).toNat := by
  have others (after : Thread → Stage) (same : ∀ u, u ≠ t → after u = threads u) :
      count region after = (Finset.univ.filter fun u => u ≠ t ∧ region (threads u) = true).card +
        (region (after t)).toNat := by
    have apart : (Finset.univ.filter fun u => region (after u) = true).erase t =
        Finset.univ.filter fun u => u ≠ t ∧ region (threads u) = true := by
      ext u
      by_cases here : u = t <;> simp [here, same]
    rw [count, ← apart]
    cases inside : region (after t) with
    | true =>
        have member : t ∈ Finset.univ.filter fun u => region (after u) = true := by simp [inside]
        exact (Finset.card_erase_add_one member).symm
    | false => simp [Finset.erase_eq_of_notMem, inside]
  rw [others (Function.update threads t stage) (by simp +contextual),
    others threads (fun _ _ => rfl), Function.update_self]
  omega

theorem count_le_add [Fintype Thread] {region first second : Stage → Bool}
    (covered : ∀ stage, region stage = true → first stage = true ∨ second stage = true)
    (threads : Thread → Stage) : count region threads ≤ count first threads + count second threads := by
  refine (Finset.card_le_card ?_).trans (Finset.card_union_le _ _)
  intro t member
  simpa using covered _ (by simpa using member)

end Fleet.Threads
