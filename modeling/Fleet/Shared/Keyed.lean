import Mathlib.Algebra.Ring.Nat
import Mathlib.Data.List.Basic
import Mathlib.Data.List.Forall2
import Mathlib.Data.List.Nodup

set_option autoImplicit false

namespace Fleet.Keyed

universe u v

variable {Row : Type u} {Key : Type v} [DecidableEq Key] (key : Row → Key)

-- A table as the list of its rows; a row is found by its key.
def lookup (k : Key) (rows : List Row) : Option Row := rows.find? fun row => key row = k

def replace (row : Row) (rows : List Row) : List Row :=
  rows.map fun old => if key old = key row then row else old

def upsert (row : Row) (rows : List Row) : List Row :=
  match lookup key (key row) rows with
  | some _ => replace key row rows
  | none => rows ++ [row]

-- A change of the row that is found by this key.
def alter (k : Key) (change : Row → Row) : List Row → List Row
  | [] => []
  | row :: rest => if key row = k then change row :: rest else row :: alter k change rest

def Unique (rows : List Row) : Prop := (rows.map key).Nodup

variable {key}

theorem lookup_eq_none {k : Key} {rows : List Row} :
    lookup key k rows = none ↔ ∀ row ∈ rows, key row ≠ k := by
  simp [lookup]

theorem lookup_key {k : Key} {row : Row} {rows : List Row}
    (found : lookup key k rows = some row) : key row = k := by
  simpa using List.find?_some found

theorem mem_of_lookup {k : Key} {row : Row} {rows : List Row}
    (found : lookup key k rows = some row) : row ∈ rows :=
  List.mem_of_find?_eq_some found

theorem lookup_isSome {k : Key} {rows : List Row} :
    (lookup key k rows).isSome = true ↔ k ∈ rows.map key := by
  simp [lookup, List.find?_isSome]

theorem Unique.lookup_of_mem {rows : List Row} (unique : Unique key rows) {row : Row}
    (member : row ∈ rows) : lookup key (key row) rows = some row := by
  induction rows with
  | nil => simp at member
  | cons head tail ih =>
      obtain ⟨fresh, unique⟩ := List.nodup_cons.1 unique
      rcases List.mem_cons.1 member with rfl | later
      · simp [lookup]
      · have different : key head ≠ key row := by
          intro same
          exact fresh (same ▸ List.mem_map_of_mem later)
        simpa [lookup, List.find?_cons, different] using ih unique later

theorem Unique.eq_of_key {rows : List Row} (unique : Unique key rows) {row other : Row}
    (member : row ∈ rows) (present : other ∈ rows) (same : key row = key other) : row = other := by
  have found := unique.lookup_of_mem member
  rw [same, unique.lookup_of_mem present] at found
  exact (Option.some.inj found).symm

theorem map_key_replace (row : Row) (rows : List Row) :
    (replace key row rows).map key = rows.map key := by
  simp only [replace, List.map_map]
  apply List.map_congr_left
  intro old _
  by_cases same : key old = key row <;> simp [same]

theorem lookup_map {f : Row → Row} (kept : ∀ row, key (f row) = key row) (rows : List Row)
    (k : Key) : lookup key k (rows.map f) = (lookup key k rows).map f := by
  rw [lookup, List.find?_map]
  exact congrArg (fun test => (rows.find? test).map f) (funext fun row => by simp [kept])

theorem lookup_replace (row : Row) (rows : List Row) (k : Key) :
    lookup key k (replace key row rows) =
      if key row = k then (lookup key k rows).map fun _ => row else lookup key k rows := by
  induction rows with
  | nil => simp [lookup, replace]
  | cons head tail ih =>
      simp only [lookup, replace] at ih
      by_cases here : key head = key row <;> by_cases wanted : key row = k
      · simp [lookup, replace, here, wanted]
      · simpa [lookup, replace, List.find?_cons, here, wanted] using ih
      · have skipped : key head ≠ k := by
          rw [← wanted]
          exact here
        simpa [lookup, replace, List.find?_cons, here, wanted, skipped] using ih
      · by_cases found : key head = k
        · have other : k ≠ key row := Ne.symm wanted
          simp [lookup, replace, wanted, found, other]
        · simpa [lookup, replace, List.find?_cons, here, wanted, found] using ih

theorem lookup_upsert (row : Row) (rows : List Row) (k : Key) :
    lookup key k (upsert key row rows) = if key row = k then some row else lookup key k rows := by
  unfold upsert
  split
  next old found =>
    rw [lookup_replace]
    by_cases wanted : key row = k
    · simp [wanted, wanted ▸ found]
    · simp [wanted]
  next missing =>
    by_cases wanted : key row = k
    · subst k
      simp only [lookup] at missing
      simp [lookup, List.find?_append, missing]
    · simp [lookup, List.find?_append, wanted]

theorem mem_replace {row member : Row} {rows : List Row}
    (present : member ∈ replace key row rows) :
    member = row ∨ (member ∈ rows ∧ key member ≠ key row) := by
  obtain ⟨old, inside, image⟩ := List.mem_map.1 present
  by_cases same : key old = key row
  · exact .inl (by simpa [same] using image.symm)
  · obtain rfl : old = member := by simpa [same] using image
    exact .inr ⟨inside, same⟩

theorem mem_upsert {row member : Row} {rows : List Row}
    (present : member ∈ upsert key row rows) :
    member = row ∨ (member ∈ rows ∧ key member ≠ key row) := by
  unfold upsert at present
  split at present
  · exact mem_replace present
  next missing =>
    rcases List.mem_append.1 present with early | last
    · exact .inr ⟨early, lookup_eq_none.1 missing member early⟩
    · exact .inl (List.mem_singleton.1 last)

omit [DecidableEq Key] in
theorem Unique.concat {rows : List Row} (unique : Unique key rows) {row : Row}
    (fresh : ∀ old ∈ rows, key old ≠ key row) : Unique key (rows ++ [row]) := by
  rw [Unique, List.map_append, List.nodup_append]
  refine ⟨unique, by simp, ?_⟩
  rintro k inside other last rfl
  obtain ⟨old, member, rfl⟩ := List.mem_map.1 inside
  exact fresh old member (by simpa using last)

theorem Unique.upsert {rows : List Row} (unique : Unique key rows) (row : Row) :
    Unique key (upsert key row rows) := by
  unfold Keyed.upsert
  split
  · rw [Unique, map_key_replace]
    exact unique
  next missing => exact unique.concat (lookup_eq_none.1 missing)

theorem lookup_concat {rows : List Row} {row : Row} (fresh : lookup key (key row) rows = none)
    (k : Key) :
    lookup key k (rows ++ [row]) = if k = key row then some row else lookup key k rows := by
  by_cases same : k = key row
  · subst same
    rw [lookup] at fresh
    simp [lookup, List.find?_append, fresh]
  · have apart : ¬key row = k := fun equal => same equal.symm
    simp [lookup, List.find?_append, same, apart]

theorem map_key_alter {k : Key} {change : Row → Row} (kept : ∀ row, key (change row) = key row)
    (rows : List Row) : (alter key k change rows).map key = rows.map key := by
  induction rows with
  | nil => rfl
  | cons row rest ih => by_cases here : key row = k <;> simp [alter, here, kept, ih]

theorem lookup_alter {k : Key} {change : Row → Row} (kept : ∀ row, key (change row) = key row)
    (rows : List Row) (other : Key) :
    lookup key other (alter key k change rows) =
      (lookup key other rows).map fun row => if other = k then change row else row := by
  induction rows with
  | nil => rfl
  | cons row rest ih =>
      simp only [lookup] at ih
      by_cases here : key row = k <;> by_cases wanted : key row = other
      · have same : other = k := wanted.symm.trans here
        simp [lookup, alter, here, kept, same]
      · have apart : ¬k = other := fun same => wanted (here.trans same)
        have other : ¬other = k := fun same => apart same.symm
        simp [lookup, alter, here, kept, apart, other]
      · have apart : ¬other = k := fun same => here (wanted.trans same)
        simp [lookup, alter, wanted, apart]
      · simp [lookup, alter, here, wanted, ih]

theorem length_alter (k : Key) (change : Row → Row) (rows : List Row) :
    (alter key k change rows).length = rows.length := by
  induction rows with
  | nil => rfl
  | cons row rest ih => by_cases here : key row = k <;> simp [alter, here, ih]

theorem mem_alter {k : Key} {change : Row → Row} {row : Row} {rows : List Row}
    (member : row ∈ alter key k change rows) : ∃ old ∈ rows, row = old ∨ row = change old := by
  induction rows with
  | nil => cases member
  | cons old rest ih =>
      unfold alter at member
      split at member
      · rcases List.mem_cons.1 member with rfl | later
        · exact ⟨old, List.mem_cons_self, .inr rfl⟩
        · exact ⟨row, List.mem_cons_of_mem _ later, .inl rfl⟩
      · rcases List.mem_cons.1 member with rfl | later
        · exact ⟨row, List.mem_cons_self, .inl rfl⟩
        · obtain ⟨found, inside, same⟩ := ih later
          exact ⟨found, List.mem_cons_of_mem _ inside, same⟩

theorem alter_same (k : Key) (rows : List Row) : alter key k (fun row => row) rows = rows := by
  induction rows with
  | nil => rfl
  | cons row rest ih => by_cases here : key row = k <;> simp [alter, here, ih]

-- The first row of that key is the only one.
theorem Unique.lookup_eraseP {rows : List Row} (unique : Unique key rows) (k other : Key) :
    lookup key other (rows.eraseP fun row => key row = k) =
      if other = k then none else lookup key other rows := by
  induction rows with
  | nil => simp [lookup]
  | cons row rest ih =>
      obtain ⟨absent, unique⟩ := List.nodup_cons.1 unique
      have rest := ih unique
      simp only [lookup] at rest
      by_cases here : key row = k <;> by_cases wanted : key row = other
      · subst here wanted
        simpa [lookup] using absent
      · have apart : ¬k = other := fun same => wanted (here.trans same)
        have other : ¬other = k := fun same => apart same.symm
        simp [lookup, here, apart, other]
      · have apart : ¬other = k := fun same => here (wanted.trans same)
        simp [lookup, wanted, apart]
      · simpa [lookup, List.find?_cons, wanted, here] using rest

-- Where no key repeats, the first row of a key is the only one.
theorem Unique.alter_eq_map {rows : List Row} (unique : Unique key rows) (k : Key)
    (change : Row → Row) :
    alter key k change rows = rows.map fun row => if key row = k then change row else row := by
  induction rows with
  | nil => rfl
  | cons row rest ih =>
      obtain ⟨absent, unique⟩ := List.nodup_cons.1 unique
      by_cases here : key row = k
      · have other (later : Row) (member : later ∈ rest) :
            (if key later = k then change later else later) = later := by
          rw [if_neg]
          intro same
          exact absent (here.trans same.symm ▸ List.mem_map_of_mem member)
        rw [alter, if_pos here, List.map_cons, if_pos here, List.map_congr_left other, List.map_id']
      · rw [alter, if_neg here, List.map_cons, if_neg here, ih unique]

-- Rows that name each a key of a list without repetition are counted once, by that key.
theorem sum_countP {keys : List Key} (distinct : keys.Nodup) (name : Row → Key) {rows : List Row}
    (named : ∀ row ∈ rows, name row ∈ keys) :
    (keys.map fun k => rows.countP fun row => name row = k).sum = rows.length := by
  induction keys generalizing rows with
  | nil =>
      cases rows with
      | nil => rfl
      | cons row rest => cases named row List.mem_cons_self
  | cons k keys ih =>
      obtain ⟨absent, distinct⟩ := List.nodup_cons.1 distinct
      have others (other : Key) (member : other ∈ keys) :
          rows.countP (fun row => name row = other) =
            (rows.filter fun row => name row ≠ k).countP fun row => name row = other := by
        have apart : other ≠ k := fun same => absent (same ▸ member)
        rw [List.countP_filter]
        apply List.countP_congr
        intro row _
        simp only [decide_eq_true_eq, Bool.and_eq_true]
        exact ⟨fun same => ⟨same, same ▸ apart⟩, And.left⟩
      have later : ∀ row ∈ rows.filter fun row => name row ≠ k, name row ∈ keys := by
        intro row member
        obtain ⟨inside, different⟩ := List.mem_filter.1 member
        exact (List.mem_cons.1 (named row inside)).resolve_left (by simpa using different)
      have rest := ih distinct later
      rw [List.map_cons, List.sum_cons, List.map_congr_left others, rest,
        ← List.countP_eq_length_filter]
      have split := List.length_eq_countP_add_countP (fun row => decide (name row = k)) (l := rows)
      simpa using split.symm

section Pairs

universe w

theorem eraseP_pairs {Row : Type u} {Other : Type w} {related : Row → Other → Prop}
    {test : Row → Bool} {otherTest : Other → Bool}
    (agree : ∀ {row other}, related row other → test row = otherTest other) {rows : List Row}
    {others : List Other} (pairs : List.Forall₂ related rows others) :
    List.Forall₂ related (rows.eraseP test) (others.eraseP otherTest) := by
  induction pairs with
  | nil => exact .nil
  | cons here later ih =>
      rw [List.eraseP_cons, List.eraseP_cons, agree here]
      cases otherTest _ with
      | true => exact later
      | false => exact .cons here ih

theorem countP_pairs {Row : Type u} {Other : Type w} {related : Row → Other → Prop}
    {test : Row → Bool} {otherTest : Other → Bool}
    (agree : ∀ {row other}, related row other → test row = otherTest other) {rows : List Row}
    {others : List Other} (pairs : List.Forall₂ related rows others) :
    rows.countP test = others.countP otherTest := by
  induction pairs with
  | nil => rfl
  | cons here _ ih => rw [List.countP_cons, List.countP_cons, agree here, ih]

theorem exists_pairs {Row : Type u} {Other : Type w} {related : Row → Other → Prop}
    {test : Row → Prop} {otherTest : Other → Prop}
    (agree : ∀ {row other}, related row other → (test row ↔ otherTest other)) {rows : List Row}
    {others : List Other} (pairs : List.Forall₂ related rows others) :
    (∃ row ∈ rows, test row) ↔ ∃ other ∈ others, otherTest other := by
  induction pairs with
  | nil => simp
  | cons here _ ih => rw [List.exists_mem_cons_iff, List.exists_mem_cons_iff, agree here, ih]

variable {Other : Type w} {otherKey : Other → Key} {related : Row → Other → Prop}
  (same : ∀ {row other}, related row other → otherKey other = key row)

include same

omit [DecidableEq Key] in
theorem map_key_pairs {rows : List Row} {others : List Other}
    (pairs : List.Forall₂ related rows others) : others.map otherKey = rows.map key := by
  induction pairs with
  | nil => rfl
  | cons here _ ih => rw [List.map_cons, List.map_cons, same here, ih]

theorem lookup_pairs {rows : List Row} {others : List Other}
    (pairs : List.Forall₂ related rows others) (k : Key) :
    Option.Rel related (lookup key k rows) (lookup otherKey k others) := by
  induction pairs with
  | nil => exact .none
  | cons here _ ih =>
      unfold lookup at ih ⊢
      rw [List.find?_cons, List.find?_cons, same here]
      split
      · exact .some here
      · exact ih

theorem replace_pairs {rows : List Row} {others : List Other} {row : Row} {other : Other}
    (pairs : List.Forall₂ related rows others) (new : related row other) :
    List.Forall₂ related (replace key row rows) (replace otherKey other others) := by
  induction pairs with
  | nil => exact .nil
  | cons here _ ih =>
      refine .cons ?_ ih
      dsimp only
      rw [same here, same new]
      split
      · exact new
      · exact here

theorem alter_pairs {rows : List Row} {others : List Other} {k : Key} {change : Row → Row}
    {otherChange : Other → Other}
    (changes : ∀ {row other}, related row other → related (change row) (otherChange other))
    (pairs : List.Forall₂ related rows others) :
    List.Forall₂ related (alter key k change rows) (alter otherKey k otherChange others) := by
  induction pairs with
  | nil => exact .nil
  | cons here later ih =>
      rw [alter, alter, same here]
      split
      · exact .cons (changes here) later
      · exact .cons here ih

end Pairs

end Fleet.Keyed
