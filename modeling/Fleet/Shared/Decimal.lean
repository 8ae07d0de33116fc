import Fleet.Shared.Datetime
import Mathlib.Algebra.Group.Nat.Defs

set_option autoImplicit false

namespace Fleet.Decimal

open Datetime

variable {width first second : Nat}

def value (digits : List Char) : Nat := Nat.ofDigitChars 10 digits 0

theorem value_append (digits rest : List Char) :
    value (digits ++ rest) = 10 ^ rest.length * value digits + value rest := by
  rw [value, Nat.ofDigitChars_append, Nat.ofDigitChars_eq_ofDigitChars_zero]
  rfl

theorem value_cons (c : Char) (rest : List Char) :
    value (c :: rest) = 10 ^ rest.length * (c.toNat - '0'.toNat) + value rest := by
  rw [value, Nat.ofDigitChars_cons, Nat.ofDigitChars_eq_ofDigitChars_zero, Nat.mul_zero,
    Nat.zero_add]
  rfl

theorem digit_bounds {c : Char} (digit : c.isDigit = true) : 48 ≤ c.toNat ∧ c.toNat ≤ 57 := by
  simpa [Char.isDigit, UInt32.le_iff_toNat_le] using digit

theorem value_lt {digits : List Char} (decimal : ∀ c ∈ digits, c.isDigit = true) :
    value digits < 10 ^ digits.length := by
  induction digits with
  | nil => decide
  | cons c rest ih =>
      rw [List.forall_mem_cons] at decimal
      have small : c.toNat - '0'.toNat ≤ 9 := by
        have bounds := digit_bounds decimal.1
        rw [show '0'.toNat = 48 from rfl]
        omega
      have tail := ih decimal.2
      have head := Nat.mul_le_mul_left (10 ^ rest.length) small
      rw [value_cons, List.length_cons, Nat.pow_succ]
      omega

theorem digit_lt_iff {c d : Char} (digit : c.isDigit = true) (digit' : d.isDigit = true) :
    c < d ↔ c.toNat - '0'.toNat < d.toNat - '0'.toNat := by
  have low := (digit_bounds digit).1
  have low' := (digit_bounds digit').1
  rw [Char.lt_def, UInt32.lt_iff_toNat_lt, show '0'.toNat = 48 from rfl]
  change c.toNat < d.toNat ↔ _
  omega

theorem digit_eq_iff {c d : Char} (digit : c.isDigit = true) (digit' : d.isDigit = true) :
    c = d ↔ c.toNat - '0'.toNat = d.toNat - '0'.toNat := by
  have low := (digit_bounds digit).1
  have low' := (digit_bounds digit').1
  rw [← Char.toNat_inj, show '0'.toNat = 48 from rfl]
  omega

theorem positional_lt_iff {base high high' low low' : Nat} (fits : low < base)
    (fits' : low' < base) :
    base * high + low < base * high' + low' ↔ high < high' ∨ high = high' ∧ low < low' := by
  rcases Nat.lt_trichotomy high high' with less | rfl | more
  · have carry := Nat.mul_le_mul_left base less
    rw [Nat.mul_succ] at carry
    omega
  · omega
  · have carry := Nat.mul_le_mul_left base more
    rw [Nat.mul_succ] at carry
    omega

-- Digits of one length are ordered as their values are, whatever follows them.
theorem append_lt_append_iff {digits digits' rest rest' : List Char}
    (same : digits.length = digits'.length) (decimal : ∀ c ∈ digits, c.isDigit = true)
    (decimal' : ∀ c ∈ digits', c.isDigit = true) :
    digits ++ rest < digits' ++ rest' ↔
      value digits < value digits' ∨ digits = digits' ∧ rest < rest' := by
  induction digits generalizing digits' with
  | nil =>
      obtain rfl := List.eq_nil_of_length_eq_zero same.symm
      simp
  | cons c tail ih =>
      cases digits' with
      | nil => cases same
      | cons d tail' =>
          rw [List.forall_mem_cons] at decimal decimal'
          have length : tail.length = tail'.length := Nat.succ.inj same
          have left := value_lt decimal.2
          have right := value_lt decimal'.2
          rw [length] at left
          rw [List.cons_append, List.cons_append, List.cons_lt_cons_iff,
            ih length decimal.2 decimal'.2, value_cons, value_cons, length,
            positional_lt_iff left right, List.cons.injEq, digit_lt_iff decimal.1 decimal'.1,
            digit_eq_iff decimal.1 decimal'.1]
          tauto

theorem ofDigitChars_padded (width value : Nat) :
    Nat.ofDigitChars 10 (padded width value) 0 = value := by
  rw [padded, List.leftpad, Nat.ofDigitChars_append, Nat.ofDigitChars_replicate_zero, Nat.mul_zero,
    Nat.ofDigitChars_ten_toDigits]

theorem value_padded (width number : Nat) : value (padded width number) = number :=
  ofDigitChars_padded width number

theorem padded_inj : padded width first = padded width second ↔ first = second := by
  constructor
  next =>
    intro same
    have values := congrArg (fun digits => Nat.ofDigitChars 10 digits 0) same
    simpa only [ofDigitChars_padded] using values
  next => exact congrArg (padded width)

theorem isDigit_of_mem_padded {value : Nat} {c : Char} (member : c ∈ padded width value) :
    c.isDigit = true := by
  rcases List.mem_append.1 member with zero | digit
  · rw [(List.mem_replicate.1 zero).2]
    decide
  · exact Nat.isDigit_of_mem_toDigits (by decide) (by decide) digit

theorem notMem_padded {value : Nat} {c : Char} (other : c.isDigit = false) :
    c ∉ padded width value := by
  intro member
  rw [isDigit_of_mem_padded member] at other
  cases other

theorem length_padded (width number : Nat) :
    (padded width number).length = max width (Nat.toDigits 10 number).length := by
  rw [padded, List.length_leftpad]

theorem length_padded_mono (le : first ≤ second) :
    (padded width first).length ≤ (padded width second).length := by
  have digits : (Nat.toDigits 10 first).length ≤ (Nat.toDigits 10 second).length := by
    rw [Nat.length_toDigits_le_iff (by decide) Nat.length_toDigits_pos]
    exact Nat.lt_of_le_of_lt le
      ((Nat.length_toDigits_le_iff (by decide) Nat.length_toDigits_pos).1 (Nat.le_refl _))
  rw [length_padded, length_padded]
  omega

/-- The first number is at most what the leading digits of the second say. -/
def Precedes (width first second : Nat) : Prop :=
  first ≤ second / 10 ^ ((padded width second).length - (padded width first).length)

instance (width first second : Nat) : Decidable (Precedes width first second) :=
  inferInstanceAs (Decidable (_ ≤ _))

theorem precedes_of_length (less : first < second)
    (same : (padded width first).length = (padded width second).length) :
    Precedes width first second := by
  rw [Precedes, same, Nat.sub_self, Nat.pow_zero, Nat.div_one]
  exact Nat.le_of_lt less

theorem eq_of_value {digits digits' : List Char} (same : digits.length = digits'.length)
    (decimal : ∀ c ∈ digits, c.isDigit = true) (decimal' : ∀ c ∈ digits', c.isDigit = true)
    (values : value digits = value digits') : digits = digits' := by
  rcases lt_trichotomy digits digits' with less | equal | more
  · have order := (@append_lt_append_iff digits digits' [] [] same decimal decimal').1
      (by simpa using less)
    simp [values] at order
  · exact equal
  · have order := (@append_lt_append_iff digits' digits [] [] same.symm decimal' decimal).1
      (by simpa using more)
    simp [values] at order

theorem value_lead {number : Nat} {lead tail : List Char}
    (split : padded width number = lead ++ tail) : value lead = number / 10 ^ tail.length := by
  have decimal : ∀ c ∈ tail, c.isDigit = true := by
    intro c member
    apply @isDigit_of_mem_padded width number
    rw [split]
    exact List.mem_append_right lead member
  rw [← value_padded width number, split, value_append, Nat.mul_add_div (Nat.pow_pos (by decide)),
    Nat.div_eq_of_lt (value_lt decimal), Nat.add_zero]

-- Numbers that a mark below every digit ends are ordered as their leading digits are.
theorem padded_lt_padded_iff {mark : Char} {rest rest' : List Char} (below : mark < '0')
    (less : first < second) :
    padded width first ++ mark :: rest < padded width second ++ mark :: rest' ↔
      Precedes width first second := by
  have longer := @length_padded_mono width first second (Nat.le_of_lt less)
  obtain ⟨lead, tail, split, length⟩ : ∃ lead tail,
      padded width second = lead ++ tail ∧ (padded width first).length = lead.length :=
    ⟨_, _, (List.take_append_drop (padded width first).length _).symm,
      by rw [List.length_take, Nat.min_eq_left longer]⟩
  have decimal : ∀ c ∈ lead ++ tail, c.isDigit = true := by
    intro c member
    rw [← split] at member
    exact isDigit_of_mem_padded member
  rw [List.forall_mem_append] at decimal
  have places : (padded width second).length - (padded width first).length = tail.length := by
    rw [split, List.length_append, length, Nat.add_sub_cancel_left]
  have same : padded width first = lead ↔ first = value lead := by
    constructor
    next =>
      intro equal
      rw [← equal, value_padded]
    next =>
      intro equal
      exact eq_of_value length (fun c => isDigit_of_mem_padded) decimal.1
        ((value_padded width first).trans equal)
  have quotient := value_lead split
  rw [Precedes, places, ← quotient, split, List.append_assoc,
    append_lt_append_iff length (fun c => isDigit_of_mem_padded) decimal.1, value_padded, same]
  cases tail with
  | nil =>
      have whole : value lead = second := by simpa using quotient
      omega
  | cons d tail =>
      have above : mark < d := by
        have zero : '0' ≤ d := (digit_bounds (decimal.2 d List.mem_cons_self)).1
        exact lt_of_lt_of_le below zero
      have last : mark :: rest < (d :: tail) ++ mark :: rest' :=
        List.cons_lt_cons_iff.2 (.inl above)
      simp only [last, and_true]
      omega

end Fleet.Decimal
