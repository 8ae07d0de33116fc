import Fleet.Shared.Mealy

set_option autoImplicit false

namespace Fleet.Mealy

universe u v w x y

variable {Spec : Type u} {Impl : Type v} {Input : Type w} {Wanted : Type x} {Given : Type y}
  (spec : Spec → Input → Wanted × Spec) (impl : Impl → Input → Given × Impl)

/-- On every input that the specification allows where it stands, the two answer alike and stand in
the relation again. -/
structure Simulation (allowed : Spec → Input → Prop) (related : Spec → Impl → Prop)
    (alike : Wanted → Given → Prop) : Prop where
  answer : ∀ {wanted given input}, related wanted given → allowed wanted input →
    alike (spec wanted input).1 (impl given input).1
  next : ∀ {wanted given input}, related wanted given → allowed wanted input →
    related (spec wanted input).2 (impl given input).2

variable {spec impl}

theorem throughout_of_forall {allowed : Input → Prop} {inputs : List Input}
    (each : ∀ input ∈ inputs, allowed input) (state : Spec) :
    Throughout spec (fun _ => allowed) state inputs := by
  induction inputs generalizing state with
  | nil => trivial
  | cons input rest ih =>
      obtain ⟨here, later⟩ := List.forall_mem_cons.1 each
      exact ⟨here, ih later _⟩

variable {allowed : Spec → Input → Prop} {related : Spec → Impl → Prop}
  {alike : Wanted → Given → Prop}

-- A whole run answers alike, and ends where the relation holds.
theorem Simulation.run (simulation : Simulation spec impl allowed related alike)
    {wanted : Spec} {given : Impl} {inputs : List Input} (start : related wanted given)
    (permitted : Throughout spec allowed wanted inputs) :
    List.Forall₂ (fun one other => one.1 = other.1 ∧ alike one.2 other.2)
        (answers spec wanted inputs) (answers impl given inputs) ∧
      related (final spec wanted inputs) (final impl given inputs) := by
  induction inputs generalizing wanted given with
  | nil => exact ⟨.nil, start⟩
  | cons input rest ih =>
      obtain ⟨here, later⟩ := permitted
      obtain ⟨answered, reached⟩ := ih (simulation.next start here) later
      exact ⟨.cons ⟨rfl, simulation.answer start here⟩ answered, reached⟩

end Fleet.Mealy
