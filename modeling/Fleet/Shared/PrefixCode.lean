import Mathlib.Data.List.Basic

set_option autoImplicit false

namespace Fleet.PrefixCode

universe u v w

variable {Value : Type u} {Symbol : Type v}

/-- Where one code word ends and the next begins can be read off the text itself. -/
def SelfDelimiting (encode : Value → List Symbol) : Prop :=
  ∀ first second rest rest', encode first ++ rest = encode second ++ rest' →
    first = second ∧ rest = rest'

theorem selfDelimiting_of_decode {encode : Value → List Symbol}
    (decode : List Symbol → Option (Value × List Symbol))
    (reads : ∀ value rest, decode (encode value ++ rest) = some (value, rest)) :
    SelfDelimiting encode := by
  intro first second rest rest' same
  have read := reads first rest
  rw [same, reads second rest'] at read
  exact ⟨(congrArg Prod.fst (Option.some.inj read)).symm,
    (congrArg Prod.snd (Option.some.inj read)).symm⟩

theorem SelfDelimiting.injective {encode : Value → List Symbol} (code : SelfDelimiting encode) :
    Function.Injective encode := by
  intro first second same
  exact (code first second [] [] (by rw [same])).1

theorem SelfDelimiting.comp {Other : Type w} {encode : Value → List Symbol}
    (code : SelfDelimiting encode) {view : Other → Value} (injective : Function.Injective view) :
    SelfDelimiting fun other => encode (view other) := by
  intro first second rest rest' same
  have split := code _ _ _ _ same
  exact ⟨injective split.1, split.2⟩

theorem SelfDelimiting.preceded {encode : Value → List Symbol} (code : SelfDelimiting encode)
    (mark : List Symbol) : SelfDelimiting fun value => mark ++ encode value := by
  intro first second rest rest' same
  simp only [List.append_assoc] at same
  exact code _ _ _ _ (List.append_cancel_left same)

-- A run of code words is closed by a symbol that no word starts with.
theorem SelfDelimiting.closed {encode : Value → List Symbol} (code : SelfDelimiting encode)
    {stop : Symbol}
    (started : ∀ value, ∃ first others, encode value = first :: others ∧ first ≠ stop) :
    SelfDelimiting fun values => List.flatMap encode values ++ [stop] := by
  intro first second rest rest' same
  induction first generalizing second with
  | nil =>
      cases second with
      | nil => simpa using same
      | cons value values =>
          obtain ⟨symbol, others, shape, other⟩ := started value
          simp [shape] at same
          exact absurd same.1.symm other
  | cons value values ih =>
      cases second with
      | nil =>
          obtain ⟨symbol, others, shape, other⟩ := started value
          simp [shape] at same
          exact absurd same.1 other
      | cons value' values' =>
          simp only [List.flatMap_cons, List.append_assoc] at same
          obtain ⟨rfl, tail⟩ := code _ _ _ _ same
          obtain ⟨rfl, rfl⟩ := ih values' (by simpa only [List.append_assoc] using tail)
          exact ⟨rfl, rfl⟩

-- A missing value is told apart by its first symbol.
theorem SelfDelimiting.option {encode : Value → List Symbol} (code : SelfDelimiting encode)
    {mark : Symbol} {tail : List Symbol}
    (started : ∀ value, ∃ first others, encode value = first :: others ∧ first ≠ mark) :
    SelfDelimiting fun value : Option Value => value.elim (mark :: tail) encode := by
  intro first second rest rest' same
  cases first with
  | none =>
      cases second with
      | none => exact ⟨rfl, List.append_cancel_left same⟩
      | some value =>
          obtain ⟨symbol, others, shape, other⟩ := started value
          simp [shape] at same
          exact absurd same.1.symm other
  | some value =>
      cases second with
      | none =>
          obtain ⟨symbol, others, shape, other⟩ := started value
          simp [shape] at same
          exact absurd same.1 other
      | some value' =>
          obtain ⟨rfl, rfl⟩ := code _ _ _ _ same
          exact ⟨rfl, rfl⟩

end Fleet.PrefixCode
