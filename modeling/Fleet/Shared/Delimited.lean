import Mathlib.Data.List.Basic

set_option autoImplicit false

namespace Fleet.Delimited

universe u

variable {α : Type u} [DecidableEq α] {sep : α} {left left' right right' : List α}

-- A separator can be told apart from the same symbol inside a field by how many came before it.
theorem split_of_count (same : left ++ sep :: right = left' ++ sep :: right')
    (count : left.count sep = left'.count sep) : left = left' ∧ right = right' := by
  induction left generalizing left' with
  | nil =>
      cases left' with
      | nil => simpa using same
      | cons head tail =>
          obtain ⟨rfl, -⟩ : sep = head ∧ _ := by simpa using same
          simp at count
  | cons head tail ih =>
      cases left' with
      | nil =>
          obtain ⟨rfl, -⟩ : head = sep ∧ _ := by simpa using same
          simp at count
      | cons head' tail' =>
          obtain ⟨rfl, rest⟩ : head = head' ∧ tail ++ sep :: right = tail' ++ sep :: right' := by
            simpa using same
          have fewer : tail.count sep = tail'.count sep := by
            by_cases here : head = sep <;> simpa [List.count_cons, here] using count
          simpa using ih rest fewer

theorem split_of_absent (same : left ++ sep :: right = left' ++ sep :: right')
    (absent : sep ∉ left) (absent' : sep ∉ left') : left = left' ∧ right = right' := by
  apply split_of_count same
  rw [List.count_eq_zero.2 absent, List.count_eq_zero.2 absent']

theorem split_last (same : left ++ sep :: right = left' ++ sep :: right')
    (absent : sep ∉ right) (absent' : sep ∉ right') : left = left' ∧ right = right' := by
  apply split_of_count same
  have total := congrArg (List.count sep) same
  simp only [List.count_append, List.count_cons_self, List.count_eq_zero.2 absent,
    List.count_eq_zero.2 absent'] at total
  omega

-- Two fields joined by a separator that either may contain are split at the same place, or one
-- split lies inside a field of the other.
omit [DecidableEq α] in
theorem joined_eq_iff : left ++ sep :: right = left' ++ sep :: right' ↔
    (left = left' ∧ right = right') ∨
      (∃ rest, left = left' ++ sep :: rest ∧ right' = rest ++ sep :: right) ∨
        ∃ rest, left' = left ++ sep :: rest ∧ right = rest ++ sep :: right' := by
  constructor
  next =>
    intro same
    rcases List.append_eq_append_iff.1 same with ⟨rest, longer, tail⟩ | ⟨rest, longer, tail⟩
    · cases rest with
      | nil => exact .inl ⟨by simpa using longer.symm, by simpa using tail⟩
      | cons head rest =>
          obtain ⟨rfl, inner⟩ := List.cons.inj tail
          exact .inr (.inr ⟨rest, longer, inner⟩)
    · cases rest with
      | nil => exact .inl ⟨by simpa using longer, by simpa using tail.symm⟩
      | cons head rest =>
          obtain ⟨rfl, inner⟩ := List.cons.inj tail
          exact .inr (.inl ⟨rest, longer, inner⟩)
  next =>
    rintro (⟨rfl, rfl⟩ | ⟨rest, rfl, rfl⟩ | ⟨rest, rfl, rfl⟩) <;> simp

-- The last mark of a text, whichever mark it is.
omit [DecidableEq α] in
theorem split_last_mark {mark : α → Prop} {sep' : α} (same : left ++ sep :: right = left' ++ sep' :: right')
    (marked : mark sep) (marked' : mark sep') (absent : ∀ c ∈ right, ¬ mark c)
    (absent' : ∀ c ∈ right', ¬ mark c) : left = left' ∧ sep = sep' ∧ right = right' := by
  rcases List.append_eq_append_iff.1 same with ⟨rest, longer, tail⟩ | ⟨rest, longer, tail⟩
  · cases rest with
    | nil =>
        obtain ⟨rfl, rfl⟩ := List.cons.inj tail
        exact ⟨by simpa using longer.symm, rfl, rfl⟩
    | cons head rest =>
        obtain ⟨-, inner⟩ := List.cons.inj tail
        exact absurd marked' (absent sep' (by simp [inner]))
  · cases rest with
    | nil =>
        obtain ⟨rfl, rfl⟩ := List.cons.inj tail
        exact ⟨by simpa using longer, rfl, rfl⟩
    | cons head rest =>
        obtain ⟨-, inner⟩ := List.cons.inj tail
        exact absurd marked (absent' sep (by simp [inner]))

end Fleet.Delimited
