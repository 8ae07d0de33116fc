import Mathlib.Data.List.Induction

set_option autoImplicit false

namespace Fleet.HashChain

universe u v w

variable {Row : Type u} {Hash : Type v}

def tip (own : Row → Hash) (start : Hash) (rows : List Row) : Hash :=
  rows.foldl (fun _ row => own row) start

@[simp]
theorem tip_nil (own : Row → Hash) (start : Hash) : tip own start [] = start := rfl

@[simp]
theorem tip_cons (own : Row → Hash) (start : Hash) (row : Row) (rest : List Row) :
    tip own start (row :: rest) = tip own (own row) rest := rfl

@[simp]
theorem tip_concat (own : Row → Hash) (start : Hash) (rows : List Row) (row : Row) :
    tip own start (rows ++ [row]) = own row := by
  simp [tip]

-- Each row's back pointer is the row before it; the first one points at the start.
def Chained (prior own : Row → Hash) : Hash → List Row → Prop
  | _, [] => True
  | start, row :: rest => prior row = start ∧ Chained prior own (own row) rest

theorem chained_append (prior own : Row → Hash) (start : Hash) (first second : List Row) :
    Chained prior own start (first ++ second) ↔
      Chained prior own start first ∧ Chained prior own (tip own start first) second := by
  induction first generalizing start with
  | nil => simp [Chained]
  | cons row rest ih => simp [Chained, ih, and_assoc]

theorem chained_concat (prior own : Row → Hash) (start : Hash) (rows : List Row) (row : Row) :
    Chained prior own start (rows ++ [row]) ↔
      Chained prior own start rows ∧ prior row = tip own start rows := by
  simp [chained_append, Chained]

theorem chained_prior {prior own : Row → Hash} {start : Hash} {rows : List Row}
    (chained : Chained prior own start rows) {row : Row} (member : row ∈ rows) :
    prior row = start ∨ ∃ earlier ∈ rows, prior row = own earlier := by
  induction rows generalizing start with
  | nil => cases member
  | cons head rest ih =>
      rcases List.mem_cons.1 member with rfl | later
      · exact .inl chained.1
      · rcases ih chained.2 later with first | ⟨earlier, present, linked⟩
        · exact .inr ⟨head, by simp, first⟩
        · exact .inr ⟨earlier, by simp [present], linked⟩

/-- Two chains that end in the same hash hold the same rows, as far as a row's hash determines its
content and no row hashes to the start. -/
theorem tip_commits {Content : Type w} {prior own : Row → Hash} {start : Hash}
    (content : Row → Content) {first second : List Row}
    (chained : Chained prior own start first) (chained' : Chained prior own start second)
    (binding : ∀ row ∈ first, ∀ row' ∈ second, own row = own row' →
      prior row = prior row' ∧ content row = content row')
    (fresh : ∀ row ∈ first, own row ≠ start) (fresh' : ∀ row ∈ second, own row ≠ start)
    (same : tip own start first = tip own start second) :
    first.map content = second.map content := by
  induction first using List.reverseRec generalizing second with
  | nil =>
      cases second using List.reverseRecOn with
      | nil => rfl
      | append_singleton others last =>
          rw [tip_nil, tip_concat] at same
          exact absurd same.symm (fresh' last (by simp))
  | append_singleton init last ih =>
      cases second using List.reverseRecOn with
      | nil =>
          rw [tip_nil, tip_concat] at same
          exact absurd same (fresh last (by simp))
      | append_singleton others last' =>
          rw [tip_concat, tip_concat] at same
          obtain ⟨before, link⟩ := (chained_concat _ _ _ _ _).1 chained
          obtain ⟨before', link'⟩ := (chained_concat _ _ _ _ _).1 chained'
          obtain ⟨linked, equal⟩ := binding last (by simp) last' (by simp) same
          have earlier := ih before before'
            (fun row member row' member' => binding row (by simp [member]) row' (by simp [member']))
            (fun row member => fresh row (by simp [member]))
            (fun row member => fresh' row (by simp [member]))
            (by rw [← link, ← link', linked])
          rw [List.map_append, List.map_append, earlier, List.map_singleton, List.map_singleton, equal]

end Fleet.HashChain
