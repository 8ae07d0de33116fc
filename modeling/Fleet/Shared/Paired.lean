import Mathlib.Data.List.Forall2
import Mathlib.Data.List.Nodup

set_option autoImplicit false

namespace Fleet.Paired

universe u v w

variable {First : Type u} {Second : Type v} {related : First → Second → Prop}

theorem exists_right {firsts : List First} {seconds : List Second}
    (pairs : List.Forall₂ related firsts seconds) {first : First} (member : first ∈ firsts) :
    ∃ second ∈ seconds, related first second := by
  induction pairs with
  | nil => cases member
  | cons same _ ih =>
      rcases List.mem_cons.1 member with rfl | later
      · exact ⟨_, by simp, same⟩
      · obtain ⟨second, present, linked⟩ := ih later
        exact ⟨second, List.mem_cons_of_mem _ present, linked⟩

theorem exists_left {firsts : List First} {seconds : List Second}
    (pairs : List.Forall₂ related firsts seconds) {second : Second} (member : second ∈ seconds) :
    ∃ first ∈ firsts, related first second :=
  exists_right pairs.flip member

theorem map_eq {Third : Type w} {left : First → Third} {right : Second → Third}
    {firsts : List First} {seconds : List Second}
    (pairs : List.Forall₂ related firsts seconds)
    (same : ∀ first second, related first second → right second = left first) :
    seconds.map right = firsts.map left := by
  induction pairs with
  | nil => rfl
  | cons here _ ih => rw [List.map_cons, List.map_cons, same _ _ here, ih]

theorem forall₂_mapIdx (view : Nat → First → Second) (items : List First)
    (each : ∀ index item, items[index]? = some item → related item (view index item)) :
    List.Forall₂ related items (items.mapIdx view) := by
  induction items generalizing view with
  | nil => exact .nil
  | cons item rest ih =>
      rw [List.mapIdx_cons]
      exact .cons (each 0 item rfl) (ih _ fun index other found => each (index + 1) other found)

-- Two lists that are paired with a third one are paired with each other.
theorem joined {Third : Type w} {before : First → Third → Prop} {after : Third → Second → Prop}
    {firsts : List First} {seconds : List Second} {thirds : List Third}
    (left : List.Forall₂ related firsts seconds) (right : List.Forall₂ before firsts thirds)
    (meet : ∀ first second third, related first second → before first third →
      after third second) : List.Forall₂ after thirds seconds := by
  induction left generalizing thirds with
  | nil =>
      cases right
      exact .nil
  | cons same _ ih =>
      cases right with
      | cons other rest => exact .cons (meet _ _ _ same other) (ih rest)

theorem bind_eq_ok {Failure : Type w} {First Second : Type w} (first : Except Failure First)
    (second : First → Except Failure Second) (result : Second) :
    first >>= second = .ok result ↔ ∃ value, first = .ok value ∧ second value = .ok result := by
  cases first with
  | error failure => simp [bind, Except.bind]
  | ok value => simp [bind, Except.bind]

theorem map_eq_ok {Failure : Type w} {First Second : Type v} (first : Except Failure First)
    (f : First → Second) (result : Second) :
    first.map f = .ok result ↔ ∃ value, first = .ok value ∧ f value = result := by
  cases first with
  | error failure => simp [Except.map]
  | ok value => simp [Except.map]

-- A loop that fails with its first failing item returns one result an item.
theorem mapM_eq_ok {Failure : Type w} {First Second : Type w} (f : First → Except Failure Second)
    (items : List First) (results : List Second) :
    items.mapM f = .ok results ↔
      List.Forall₂ (fun item result => f item = .ok result) items results := by
  induction items generalizing results with
  | nil =>
      rw [List.mapM_nil, List.forall₂_nil_left_iff]
      exact ⟨fun same => (Except.ok.inj same).symm, fun same => same ▸ rfl⟩
  | cons item rest ih =>
      rw [List.mapM_cons, List.forall₂_cons_left_iff, bind_eq_ok]
      constructor
      · rintro ⟨result, here, later⟩
        obtain ⟨others, looped, same⟩ := (bind_eq_ok _ _ _).1 later
        exact ⟨result, others, here, (ih others).1 looped, (Except.ok.inj same).symm⟩
      · rintro ⟨result, others, here, paired, rfl⟩
        exact ⟨result, here, (bind_eq_ok _ _ _).2 ⟨others, (ih others).2 paired, rfl⟩⟩

-- A loop that appends what it makes of each item returns all of it, in order.
theorem foldlM_append {Failure : Type w} {Item Made : Type w}
    {make : Item → Except Failure (List Made)}
    {step : List Made → Item → Except Failure (List Made)}
    (appends : ∀ made item, step made item = (make item).map (made ++ ·)) (items : List Item)
    (made : List Made) :
    items.foldlM step made = (items.mapM make).map fun lists => made ++ lists.flatten := by
  induction items generalizing made with
  | nil =>
      rw [List.foldlM_nil, List.mapM_nil]
      simp [pure, Except.pure, Except.map]
  | cons item rest ih =>
      rw [List.foldlM_cons, List.mapM_cons, appends]
      cases make item with
      | error failure => rfl
      | ok here =>
          simp only [bind, Except.bind, Except.map, ih]
          cases rest.mapM make <;> simp [pure, Except.pure]

theorem mapM_singles {Failure : Type w} {Item Made : Type w} (make : Item → Except Failure Made)
    (items : List Item) :
    ((items.mapM fun item => (make item).map fun made => [made]).map List.flatten) =
      items.mapM make := by
  induction items with
  | nil => rfl
  | cons item rest ih =>
      rw [List.mapM_cons, List.mapM_cons, ← ih]
      cases make item with
      | error failure => rfl
      | ok here => cases rest.mapM fun item => (make item).map fun made => [made] <;> rfl

-- The rows that bear one name are those made of what bears it.
theorem flatten_filter {Key : Type w} [DecidableEq Key] {name : First → Key} {label : Second → Key}
    {made : First → List Second → Prop} {firsts : List First} {lists : List (List Second)}
    (pairs : List.Forall₂ made firsts lists)
    (labelled : ∀ first list, made first list → ∀ row ∈ list, label row = name first)
    (distinct : (firsts.map name).Nodup) {first : First} (member : first ∈ firsts) :
    made first (lists.flatten.filter fun row => label row = name first) := by
  induction pairs with
  | nil => cases member
  | @cons head list rest lists here later ih =>
      obtain ⟨fresh, distinct⟩ := List.nodup_cons.1 distinct
      rw [List.flatten_cons, List.filter_append]
      rcases List.mem_cons.1 member with rfl | inside
      · have own : list.filter (fun row => label row = name first) = list :=
          List.filter_eq_self.2 fun row present => by
            simpa using labelled first list here row present
        have others : lists.flatten.filter (fun row => label row = name first) = [] := by
          refine List.filter_eq_nil_iff.2 fun row present => ?_
          obtain ⟨other, among, present⟩ := List.mem_flatten.1 present
          obtain ⟨owner, inside, made⟩ := exists_left later among
          have owned := labelled owner other made row present
          simp only [owned, decide_eq_true_eq]
          exact fun same => fresh (same ▸ List.mem_map_of_mem inside)
        rw [own, others, List.append_nil]
        exact here
      · have others : list.filter (fun row => label row = name first) = [] := by
          refine List.filter_eq_nil_iff.2 fun row present => ?_
          simp only [labelled head list here row present, decide_eq_true_eq]
          exact fun same => fresh (same ▸ List.mem_map_of_mem inside)
        rw [others, List.nil_append]
        exact ih distinct inside

end Fleet.Paired
