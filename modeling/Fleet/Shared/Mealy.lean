import Mathlib.Data.List.Forall2

set_option autoImplicit false

namespace Fleet.Mealy

universe u v w x

section Machines

variable {State : Type u} {Input : Type v} {Output : Type w}
  (step : State → Input → Output × State)

-- What the machine answers to each input, in order.
def answers : State → List Input → List (Input × Output)
  | _, [] => []
  | state, input :: rest => (input, (step state input).1) :: answers (step state input).2 rest

def final : State → List Input → State
  | state, [] => state
  | state, input :: rest => final (step state input).2 rest

/-- Hidden inputs leave the state as it looks; the others cannot tell two states apart that look
the same. -/
structure Unwinding (visible : Input → Bool) (alike : State → State → Prop) (input : Input) :
    Prop where
  hidden : visible input = false → ∀ left right, alike left right →
    alike (step left input).2 right
  same : visible input = true → ∀ left right, alike left right →
    (step left input).1 = (step right input).1 ∧ alike (step left input).2 (step right input).2

variable {step}

-- The run without the hidden inputs follows the run with them.
theorem purged {visible : Input → Bool} {alike : State → State → Prop} {inputs : List Input}
    (unwinds : ∀ input ∈ inputs, Unwinding step visible alike input) {left right : State}
    (start : alike left right) :
    (answers step left inputs).filter (fun answer => visible answer.1) =
        answers step right (inputs.filter visible) ∧
      alike (final step left inputs) (final step right (inputs.filter visible)) := by
  induction inputs generalizing left right with
  | nil => exact ⟨rfl, start⟩
  | cons input rest ih =>
      obtain ⟨here, later⟩ := List.forall_mem_cons.1 unwinds
      cases seen : visible input with
      | false =>
          obtain ⟨outputs, alike⟩ := ih later (here.hidden seen left right start)
          constructor
          · simpa [answers, seen] using outputs
          · simpa [final, seen] using alike
      | true =>
          obtain ⟨equal, next⟩ := here.same seen left right start
          obtain ⟨outputs, alike⟩ := ih later next
          constructor
          · simpa [answers, seen, equal] using outputs
          · simpa [final, seen] using alike

end Machines

section Pairs

variable {First : Type u} {Second : Type x} {Input : Type v} {Output : Type w}
  (step : First → Input → Output × First) {other : Second → Input → Output × Second}

/-- Every input comes in a state that allows it. -/
def Throughout (allowed : First → Input → Prop) : First → List Input → Prop
  | _, [] => True
  | state, input :: rest => allowed state input ∧ Throughout allowed (step state input).2 rest

variable {step} {allowed neutral : First → Input → Prop} {matched : First → Second → Prop}
  {agree : Input × Output → Input × Output → Prop}

/-- Where two machines in matching states agree on exactly the neutral inputs, and match again
after one, they agree on exactly the runs of neutral inputs. -/
theorem agree_iff_neutral
    (exact : ∀ left right input, matched left right → allowed left input →
      (agree (input, (step left input).1) (input, (other right input).1) ↔ neutral left input))
    (next : ∀ left right input, matched left right → allowed left input → neutral left input →
      matched (step left input).2 (other right input).2)
    {left : First} {right : Second} {inputs : List Input} (start : matched left right)
    (permitted : Throughout step allowed left inputs) :
    List.Forall₂ agree (answers step left inputs) (answers other right inputs) ↔
      Throughout step neutral left inputs := by
  induction inputs generalizing left right with
  | nil => simp [answers, Throughout]
  | cons input rest ih =>
      obtain ⟨here, later⟩ := permitted
      rw [answers, answers, List.forall₂_cons, exact left right input start here, Throughout]
      refine and_congr_right fun harmless => ?_
      exact ih (next left right input start here harmless) later

end Pairs

section Promises

variable {State : Type u} {Input : Type v} {Output : Type w} {Name : Type x}

-- Until an input releases it, every answer keeps the promise.
def Until (released : Input → Prop) (kept : Output → Prop) : List (Input × Output) → Prop
  | [] => True
  | (input, output) :: rest => released input ∨ kept output ∧ Until released kept rest

/-- What an answer promises, the later ones keep until it is released. -/
def Promises (made : Name → Output → Prop) (released : Name → Input → Prop)
    (kept : Name → Output → Prop) : List (Input × Output) → Prop
  | [] => True
  | (_, output) :: rest =>
      (∀ name, made name output → Until (released name) (kept name) rest) ∧
        Promises made released kept rest

variable {step : State → Input → Output × State} {allowed : State → Input → Prop}

theorem until_of_invariant {released : Input → Prop} {kept : Output → Prop}
    (good : State → Prop)
    (preserved : ∀ state input, good state → allowed state input → ¬released input →
      kept (step state input).1 ∧ good (step state input).2)
    {state : State} {inputs : List Input} (start : good state)
    (permitted : Throughout step allowed state inputs) :
    Until released kept (answers step state inputs) := by
  induction inputs generalizing state with
  | nil => trivial
  | cons input rest ih =>
      obtain ⟨here, later⟩ := permitted
      by_cases free : released input
      · exact .inl free
      · obtain ⟨keeps, next⟩ := preserved state input start here free
        exact .inr ⟨keeps, ih next later⟩

theorem promises_of_invariant {made kept : Name → Output → Prop} {released : Name → Input → Prop}
    (sound : State → Prop) (good : Name → State → Prop)
    (stays : ∀ state input, sound state → allowed state input → sound (step state input).2)
    (makes : ∀ state input name, sound state → allowed state input →
      made name (step state input).1 → good name (step state input).2)
    (preserved : ∀ name state input, sound state ∧ good name state → allowed state input →
      ¬released name input → kept name (step state input).1 ∧ good name (step state input).2)
    {state : State} {inputs : List Input} (start : sound state)
    (permitted : Throughout step allowed state inputs) :
    Promises made released kept (answers step state inputs) := by
  induction inputs generalizing state with
  | nil => trivial
  | cons input rest ih =>
      obtain ⟨here, later⟩ := permitted
      have next := stays state input start here
      refine ⟨fun name promised => ?_, ih next later⟩
      refine until_of_invariant (fun state => sound state ∧ good name state) ?_
        ⟨next, makes state input name start here promised⟩ later
      intro state input holds granted bound
      obtain ⟨keeps, remains⟩ := preserved name state input holds granted bound
      exact ⟨keeps, stays state input holds.1 granted, remains⟩

theorem Until.transfer {released free : Input → Prop} {kept held : Output → Prop}
    {agree : Input × Output → Input × Output → Prop}
    (frees : ∀ left right, agree left right → released left.1 → free right.1)
    (holds : ∀ left right, agree left right → kept left.2 → held right.2)
    {lefts rights : List (Input × Output)} (pairs : List.Forall₂ agree lefts rights)
    (promised : Until released kept lefts) : Until free held rights := by
  induction pairs with
  | nil => trivial
  | cons same _ ih =>
      rcases promised with released | ⟨keeps, later⟩
      · exact .inl (frees _ _ same released)
      · exact .inr ⟨holds _ _ same keeps, ih later⟩

theorem Promises.transfer {made kept bound held : Name → Output → Prop}
    {released free : Name → Input → Prop} {agree : Input × Output → Input × Output → Prop}
    (makes : ∀ name left right, agree left right → bound name right.2 → made name left.2)
    (frees : ∀ name left right, agree left right → released name left.1 → free name right.1)
    (holds : ∀ name left right, agree left right → kept name left.2 → held name right.2)
    {lefts rights : List (Input × Output)} (pairs : List.Forall₂ agree lefts rights)
    (promised : Promises made released kept lefts) : Promises bound free held rights := by
  induction pairs with
  | nil => trivial
  | cons same rest ih =>
      obtain ⟨here, later⟩ := promised
      refine ⟨fun name promises => ?_, ih later⟩
      exact (here name (makes name _ _ same promises)).transfer (frees name) (holds name) rest

end Promises

end Fleet.Mealy
