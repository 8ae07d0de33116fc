import Mathlib.Data.List.Sort

set_option autoImplicit false

namespace Fleet.StableSort

universe u v w

variable {α : Type u} {τ : Type v} {κ : Type w} [LinearOrder κ] [DecidableEq τ]
  {category : α → τ} {rank : τ → κ}

theorem pairwise_insertionSort (key : α → κ) (items : List α) :
    (items.insertionSort fun a b => key a ≤ key b).Pairwise fun a b => key a ≤ key b := by
  have total : Std.Total fun a b : α => key a ≤ key b := ⟨fun _ _ => le_total _ _⟩
  have transitive : IsTrans α fun a b => key a ≤ key b := ⟨fun _ _ _ => le_trans⟩
  exact List.pairwise_insertionSort _ items

theorem orderedInsert_append {r : α → α → Prop} [DecidableRel r] {a : α} {before after : List α}
    (skipped : ∀ b ∈ before, ¬ r a b) (stops : ∀ b ∈ after, r a b) :
    (before ++ after).orderedInsert r a = before ++ a :: after := by
  induction before with
  | nil =>
      cases after with
      | nil => rfl
      | cons b rest => exact List.orderedInsert_cons_of_le r rest (stops b List.mem_cons_self)
  | cons b rest ih =>
      rw [List.forall_mem_cons] at skipped
      rw [List.cons_append, List.orderedInsert_of_not_le r _ skipped.1, ih skipped.2,
        List.cons_append]

/-- The items of each category in turn, in their own order. -/
def grouped (category : α → τ) (order : List τ) (items : List α) : List α :=
  order.flatMap fun kind => items.filter fun a => category a = kind

theorem mem_grouped {order : List τ} {items : List α} {a : α} :
    a ∈ grouped category order items ↔ a ∈ items ∧ category a ∈ order := by
  simp only [grouped, List.mem_flatMap, List.mem_filter, decide_eq_true_eq]
  constructor
  next =>
    rintro ⟨_, listed, member, rfl⟩
    exact ⟨member, listed⟩
  next => exact fun ⟨member, listed⟩ => ⟨_, listed, member, rfl⟩

theorem grouped_cons_of_notMem {order : List τ} {items : List α} {a : α}
    (other : category a ∉ order) :
    grouped category order (a :: items) = grouped category order items := by
  apply List.flatMap_congr
  intro kind listed
  have different : category a ≠ kind := by
    rintro rfl
    exact other listed
  simp [different]

-- A stable sort by a rank that tells the categories apart puts them one after the other.
theorem insertionSort_eq_grouped (category : α → τ) (rank : τ → κ) {order : List τ}
    {items : List α}
    (ascending : order.Pairwise fun kind later => rank kind < rank later)
    (listed : ∀ a ∈ items, category a ∈ order) :
    (items.insertionSort fun a b => rank (category a) ≤ rank (category b)) =
      grouped category order items := by
  induction items with
  | nil => simp [grouped]
  | cons a rest ih =>
      rw [List.forall_mem_cons] at listed
      obtain ⟨lower, higher, rfl⟩ := List.append_of_mem listed.1
      rw [List.pairwise_append, List.pairwise_cons] at ascending
      obtain ⟨-, ⟨above, -⟩, below⟩ := ascending
      have fresh : category a ∉ lower := fun member =>
        lt_irrefl _ (below _ member _ List.mem_cons_self)
      have fresh' : category a ∉ higher := fun member => lt_irrefl _ (above _ member)
      rw [List.insertionSort_cons, ih listed.2]
      have parts (items : List α) : grouped category (lower ++ category a :: higher) items =
          grouped category lower items ++
            (items.filter (fun b => category b = category a) ++ grouped category higher items) := by
        simp [grouped]
      rw [parts, parts, grouped_cons_of_notMem fresh, grouped_cons_of_notMem fresh',
        List.filter_cons_of_pos (by simp), List.cons_append]
      apply orderedInsert_append
      · intro b member
        exact not_le_of_gt (below _ (mem_grouped.1 member).2 _ List.mem_cons_self)
      · intro b member
        rcases List.mem_append.1 member with same | later
        · have equal := (List.mem_filter.1 same).2
          rw [of_decide_eq_true equal]
        · exact le_of_lt (above _ (mem_grouped.1 later).2)

theorem filter_insertionSort (rank : τ → κ) (items : List α) (kind : τ) :
    ((items.insertionSort fun a b => rank (category a) ≤ rank (category b)).filter
        fun a => category a = kind) = items.filter fun a => category a = kind := by
  let tied := items.filter fun a => category a = kind
  have equal : ∀ a ∈ tied, category a = kind := fun a member =>
    of_decide_eq_true (List.mem_filter.1 member).2
  have level : tied.Pairwise fun a b => rank (category a) ≤ rank (category b) := by
    rw [List.pairwise_iff_forall_sublist]
    intro a b pair
    rw [equal a (pair.subset (by simp)), equal b (pair.subset (by simp))]
  have kept := (List.sublist_insertionSort level List.filter_sublist).filter
    fun a => category a = kind
  have whole : tied.filter (fun a => category a = kind) = tied :=
    List.filter_eq_self.2 fun a member => decide_eq_true (equal a member)
  rw [whole] at kept
  exact (kept.eq_of_length ((List.perm_insertionSort _ items).filter _).length_eq.symm).symm

end Fleet.StableSort
