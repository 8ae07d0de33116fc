import Mathlib.Data.List.Basic

set_option autoImplicit false

namespace Fleet.Execution

universe u v

variable {State : Type u} {Label : Type v}

-- A label names who acts and what the environment answered; a refused label ends the run.
def run (step : State → Label → Option State) : State → List Label → Option State
  | state, [] => some state
  | state, label :: rest => (step state label).bind fun next => run step next rest

/-- Every label of the run is taken in a state that allows it. -/
def Along (allowed : State → Label → Prop) (step : State → Label → Option State) :
    State → List Label → Prop
  | _, [] => True
  | state, label :: rest =>
      allowed state label ∧
        match step state label with
        | none => True
        | some next => Along allowed step next rest

instance Along.decide (allowed : State → Label → Prop) (step : State → Label → Option State)
    [∀ state label, Decidable (allowed state label)] :
    (state : State) → (labels : List Label) → Decidable (Along allowed step state labels)
  | _, [] => .isTrue trivial
  | state, label :: rest =>
      match taken : step state label with
      | none => decidable_of_iff (allowed state label) (by simp [Along, taken])
      | some next =>
          have := Along.decide allowed step next rest
          decidable_of_iff (allowed state label ∧ Along allowed step next rest)
            (by simp [Along, taken])

theorem along_cons (allowed : State → Label → Prop) (step : State → Label → Option State)
    (state : State) (label : Label) (rest : List Label) :
    Along allowed step state (label :: rest) ↔
      allowed state label ∧
        ∀ next, step state label = some next → Along allowed step next rest := by
  cases taken : step state label <;> simp [Along, taken]

@[simp]
theorem run_nil (step : State → Label → Option State) (state : State) :
    run step state [] = some state := rfl

theorem run_cons_eq_some (step : State → Label → Option State) (state final : State)
    (label : Label) (rest : List Label) :
    run step state (label :: rest) = some final ↔
      ∃ next, step state label = some next ∧ run step next rest = some final := by
  simp [run, Option.bind_eq_some_iff]

theorem run_append_eq_some (step : State → Label → Option State) (state final : State)
    (first second : List Label) :
    run step state (first ++ second) = some final ↔
      ∃ middle, run step state first = some middle ∧ run step middle second = some final := by
  induction first generalizing state with
  | nil => simp
  | cons label rest ih =>
      simp only [List.cons_append, run_cons_eq_some, ih]
      constructor
      · rintro ⟨next, taken, middle, early, late⟩
        exact ⟨middle, ⟨next, taken, early⟩, late⟩
      · rintro ⟨middle, ⟨next, taken, early⟩, late⟩
        exact ⟨next, taken, middle, early, late⟩

theorem along_append (allowed : State → Label → Prop) (step : State → Label → Option State)
    (state : State) (first second : List Label) :
    Along allowed step state (first ++ second) ↔
      Along allowed step state first ∧
        ∀ middle, run step state first = some middle → Along allowed step middle second := by
  induction first generalizing state with
  | nil => simp [Along]
  | cons label rest ih =>
      simp only [List.cons_append, along_cons, ih, run_cons_eq_some]
      constructor
      · rintro ⟨here, later⟩
        refine ⟨⟨here, fun next taken => (later next taken).1⟩, ?_⟩
        rintro middle ⟨next, taken, reached⟩
        exact (later next taken).2 middle reached
      · rintro ⟨⟨here, early⟩, late⟩
        exact ⟨here, fun next taken => ⟨early next taken, fun middle reached =>
          late middle ⟨next, taken, reached⟩⟩⟩

theorem Along.mono {allowed granted : State → Label → Prop}
    {step : State → Label → Option State} {state : State} {labels : List Label}
    (weaker : ∀ state label, allowed state label → granted state label)
    (along : Along allowed step state labels) : Along granted step state labels := by
  induction labels generalizing state with
  | nil => trivial
  | cons label rest ih =>
      rw [along_cons] at along ⊢
      exact ⟨weaker _ _ along.1, fun next taken => ih (along.2 next taken)⟩

theorem Along.and {allowed kept : State → Label → Prop} {step : State → Label → Option State}
    {state : State} {labels : List Label} (along : Along allowed step state labels)
    (too : Along kept step state labels) :
    Along (fun state label => allowed state label ∧ kept state label) step state labels := by
  induction labels generalizing state with
  | nil => trivial
  | cons label rest ih =>
      rw [along_cons] at along too ⊢
      exact ⟨⟨along.1, too.1⟩, fun next taken => ih (along.2 next taken) (too.2 next taken)⟩

theorem along_of_forall {inside : Label → Prop} (step : State → Label → Option State)
    (state : State) {labels : List Label} (all : ∀ label ∈ labels, inside label) :
    Along (fun _ label => inside label) step state labels := by
  induction labels generalizing state with
  | nil => trivial
  | cons label rest ih =>
      rw [List.forall_mem_cons] at all
      rw [along_cons]
      exact ⟨all.1, fun next _ => ih next all.2⟩

theorem Along.within {allowed : State → Label → Prop} {step : State → Label → Option State}
    {state : State} {labels : List Label} {inside : Label → Prop}
    (along : Along allowed step state labels) (all : ∀ label ∈ labels, inside label) :
    Along (fun state label => allowed state label ∧ inside label) step state labels :=
  along.and (along_of_forall step state all)

-- The one induction behind every invariant: a step allowed in a good state leads to a good state.
theorem run_invariant {allowed : State → Label → Prop} {step : State → Label → Option State}
    (good : State → Prop)
    (preserved : ∀ state label next, good state → allowed state label →
      step state label = some next → good next)
    {state final : State} {labels : List Label} (initial : good state)
    (along : Along allowed step state labels) (reached : run step state labels = some final) :
    good final := by
  induction labels generalizing state with
  | nil => simpa [run] using (Option.some.inj reached) ▸ initial
  | cons label rest ih =>
      obtain ⟨next, taken, tail⟩ := (run_cons_eq_some step state final label rest).1 reached
      rw [along_cons] at along
      exact ih (preserved state label next initial along.1 taken) (along.2 next taken) tail

-- The same of a state and the labels that led to it.
theorem run_labels {allowed : State → Label → Prop} {step : State → Label → Option State}
    (good : List Label → State → Prop)
    (preserved : ∀ past state label next, good past state → allowed state label →
      step state label = some next → good (past ++ [label]) next)
    (past : List Label) {state final : State} {labels : List Label} (initial : good past state)
    (along : Along allowed step state labels) (reached : run step state labels = some final) :
    good (past ++ labels) final := by
  induction labels generalizing past state with
  | nil =>
      rw [List.append_nil, ← Option.some.inj reached]
      exact initial
  | cons label rest ih =>
      obtain ⟨next, taken, tail⟩ := (run_cons_eq_some step state final label rest).1 reached
      rw [along_cons] at along
      have here := preserved past state label next initial along.1 taken
      simpa only [List.append_assoc, List.singleton_append] using
        ih _ here (along.2 next taken) tail

theorem along_trivial (step : State → Label → Option State) (state : State)
    (labels : List Label) : Along (fun _ _ => True) step state labels :=
  along_of_forall step state fun _ _ => trivial

theorem run_preserves {step : State → Label → Option State} (good : State → Prop)
    (preserved : ∀ state label next, good state → step state label = some next → good next)
    {state final : State} {labels : List Label} (initial : good state)
    (reached : run step state labels = some final) : good final :=
  run_invariant good (fun state label next here _ taken => preserved state label next here taken)
    initial (along_trivial step state labels) reached

-- What each step from a good state can only extend, a whole run can only extend.
theorem run_extends {step : State → Label → Option State} (good : State → Prop)
    (preserved : ∀ state label next, good state → step state label = some next → good next)
    (grows : State → State → Prop) (same : ∀ state, grows state state)
    (later : ∀ first second third, grows first second → grows second third →
      grows first third)
    (extended : ∀ state label next, good state → step state label = some next →
      grows state next)
    {state final : State} {labels : List Label} (initial : good state)
    (reached : run step state labels = some final) : grows state final := by
  induction labels generalizing state with
  | nil => exact (Option.some.inj reached) ▸ same state
  | cons label rest ih =>
      obtain ⟨next, taken, tail⟩ := (run_cons_eq_some step state final label rest).1 reached
      have here := extended state label next initial taken
      exact later _ _ _ here (ih (preserved state label next initial taken) tail)

theorem along_of_invariant {allowed kept : State → Label → Prop}
    {step : State → Label → Option State} (good : State → Prop)
    (preserved : ∀ state label next, good state → allowed state label →
      step state label = some next → good next)
    (sound : ∀ state label, good state → allowed state label → kept state label)
    {state : State} {labels : List Label} (initial : good state)
    (along : Along allowed step state labels) : Along kept step state labels := by
  induction labels generalizing state with
  | nil => trivial
  | cons label rest ih =>
      rw [along_cons] at along ⊢
      refine ⟨sound state label initial along.1, fun next taken => ?_⟩
      exact ih (preserved state label next initial along.1 taken) (along.2 next taken)

/-- The labels of a run with the states they are taken in. -/
def history (step : State → Label → Option State) : State → List Label → List (State × Label)
  | _, [] => []
  | state, label :: rest =>
      (state, label) ::
        match step state label with
        | none => []
        | some next => history step next rest

-- An invariant of the state reached and of all that led to it.
theorem run_history {step : State → Label → Option State}
    (good : List (State × Label) → State → Prop)
    (preserved : ∀ past state label next, good past state → step state label = some next →
      good (past ++ [(state, label)]) next)
    (past : List (State × Label)) {state final : State} {labels : List Label}
    (initial : good past state) (reached : run step state labels = some final) :
    good (past ++ history step state labels) final := by
  induction labels generalizing past state with
  | nil =>
      rw [history, List.append_nil, ← Option.some.inj reached]
      exact initial
  | cons label rest ih =>
      obtain ⟨next, taken, tail⟩ := (run_cons_eq_some step state final label rest).1 reached
      have later := ih _ (preserved past state label next initial taken) tail
      simpa only [history, taken, List.append_assoc, List.singleton_append] using later

/-- An event of the first kind, and a later one of the second. -/
def InOrder {Event : Type u} (first second : Event → Prop) (past : List Event) : Prop :=
  ∃ early late, past = early ++ late ∧ (∃ event ∈ early, first event) ∧ ∃ event ∈ late, second event

theorem InOrder.append {Event : Type u} {first second : Event → Prop} {past : List Event}
    (ordered : InOrder first second past) (more : List Event) :
    InOrder first second (past ++ more) := by
  obtain ⟨early, late, split, before, event, member, after⟩ := ordered
  refine ⟨early, late ++ more, by rw [split, List.append_assoc], before, event, ?_, after⟩
  exact List.mem_append_left _ member

theorem inOrder_of_last {Event : Type u} {first second : Event → Prop} {past : List Event}
    {event last : Event} (member : event ∈ past) (before : first event) (after : second last) :
    InOrder first second (past ++ [last]) :=
  ⟨past, [last], rfl, ⟨event, member, before⟩, last, by simp, after⟩

end Fleet.Execution
