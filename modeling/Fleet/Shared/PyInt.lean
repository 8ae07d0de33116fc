import Mathlib.Data.List.TakeWhile
import Mathlib.Data.String.Basic

set_option autoImplicit false

namespace Fleet.PyInt

-- `str.isspace`: what `int()` strips from both ends.
def spaces : List Nat := [
  0x9, 0xa, 0xb, 0xc, 0xd, 0x1c, 0x1d, 0x1e, 0x1f, 0x20, 0x85, 0xa0, 0x1680, 0x2000, 0x2001,
  0x2002, 0x2003, 0x2004, 0x2005, 0x2006, 0x2007, 0x2008, 0x2009, 0x200a, 0x2028, 0x2029, 0x202f,
  0x205f, 0x3000]

-- The zero of each run of ten decimal digits in the Unicode database of the interpreter.
def zeros : List Nat := [
  0x30, 0x660, 0x6f0, 0x7c0, 0x966, 0x9e6, 0xa66, 0xae6, 0xb66, 0xbe6, 0xc66, 0xce6, 0xd66, 0xde6,
  0xe50, 0xed0, 0xf20, 0x1040, 0x1090, 0x17e0, 0x1810, 0x1946, 0x19d0, 0x1a80, 0x1a90, 0x1b50,
  0x1bb0, 0x1c40, 0x1c50, 0xa620, 0xa8d0, 0xa900, 0xa9d0, 0xa9f0, 0xaa50, 0xabf0, 0xff10, 0x104a0,
  0x10d30, 0x11066, 0x110f0, 0x11136, 0x111d0, 0x112f0, 0x11450, 0x114d0, 0x11650, 0x116c0,
  0x11730, 0x118e0, 0x11950, 0x11c50, 0x11d50, 0x11da0, 0x16a60, 0x16ac0, 0x16b50, 0x1d7ce,
  0x1d7d8, 0x1d7e2, 0x1d7ec, 0x1d7f6, 0x1e140, 0x1e2f0, 0x1e950, 0x1fbf0]

def isSpace (c : Char) : Bool := spaces.contains c.toNat

def digitValue (c : Char) : Option Nat :=
  (zeros.find? fun first => first ≤ c.toNat && c.toNat < first + 10).map fun first => c.toNat - first

def strip (text : List Char) : List Char :=
  (text.dropWhile isSpace).reverse.dropWhile isSpace |>.reverse

-- Digits with single underscores between them.
def digits : List Char → Option (List Nat)
  | [] => none
  | [c] => (digitValue c).map fun d => [d]
  | c :: '_' :: rest => (digitValue c).bind fun d => (digits rest).map fun ds => d :: ds
  | c :: rest => (digitValue c).bind fun d => (digits rest).map fun ds => d :: ds

def maxStrDigits : Nat := 4300

def magnitude (text : List Char) : Option Nat :=
  (digits text).bind fun ds =>
    if maxStrDigits < ds.length then none else some (ds.foldl (fun n d => n * 10 + d) 0)

def unsigned : List Char → Bool × List Char
  | '-' :: rest => (true, rest)
  | '+' :: rest => (false, rest)
  | text => (false, text)

/-- `int(text)`, with `none` for `ValueError`. -/
def parse (text : String) : Option Int :=
  let (negative, rest) := unsigned (strip text.toList)
  (magnitude rest).map fun n => if negative then -(n : Int) else n

example : parse " -1_700\n" = some (-1700) ∧ parse "1__0" = none ∧ parse "٣" = some 3 := by decide

theorem digitValue_ampersand : digitValue '&' = none := by decide

theorem digits_ampersand {text : List Char} (present : '&' ∈ text) : digits text = none := by
  induction text using digits.induct with
  | case1 => simp at present
  | case2 c =>
      obtain rfl : '&' = c := by simpa using present
      simp [digits, digitValue_ampersand]
  | case3 c rest ih =>
      rcases List.mem_cons.1 present with rfl | later
      · simp [digits, digitValue_ampersand]
      · have inRest : '&' ∈ rest := by simpa using later
        simp [digits, ih inRest]
  | case4 c rest nonempty noUnderscore ih =>
      rw [digits]
      · rcases List.mem_cons.1 present with rfl | later
        · simp [digitValue_ampersand]
        · simp [ih later]
      · exact nonempty
      · exact noUnderscore

theorem mem_strip {c : Char} {text : List Char} (notSpace : isSpace c = false)
    (present : c ∈ text) : c ∈ strip text := by
  have kept (some : List Char) (inside : c ∈ some) : c ∈ some.dropWhile isSpace := by
    rw [← List.takeWhile_append_dropWhile (p := isSpace) (l := some)] at inside
    rcases List.mem_append.1 inside with early | late
    · have := List.mem_takeWhile_imp early
      simp [notSpace] at this
    · exact late
  rw [strip, List.mem_reverse]
  exact kept _ (List.mem_reverse.2 (kept _ present))

theorem parse_ampersand {text : String} (present : '&' ∈ text.toList) : parse text = none := by
  have stripped : '&' ∈ strip text.toList := mem_strip (by decide) present
  have rest : '&' ∈ (unsigned (strip text.toList)).2 := by
    unfold unsigned
    split <;> simp_all
  simp [parse, magnitude, digits_ampersand rest]

theorem digitValue_decimal {c : Char} (digit : c.isDigit = true) :
    digitValue c = some (c.toNat - '0'.toNat) := by
  obtain ⟨low, high⟩ := Char.isDigit_iff_toNat.1 digit
  have inside : (decide (48 ≤ c.toNat) && decide (c.toNat < 48 + 10)) = true := by
    simp only [Bool.and_eq_true, decide_eq_true_eq]
    exact ⟨low, Nat.lt_succ_of_le high⟩
  have found : zeros.find? (fun first => first ≤ c.toNat && c.toNat < first + 10) = some 48 :=
    List.find?_cons_of_pos inside
  rw [digitValue, found]
  rfl

theorem digits_decimal {text : List Char} (nonempty : text ≠ [])
    (decimal : ∀ c ∈ text, c.isDigit = true) :
    digits text = some (text.map fun c => c.toNat - '0'.toNat) := by
  induction text using digits.induct with
  | case1 => exact absurd rfl nonempty
  | case2 c => simp [digits, digitValue_decimal (decimal c (by simp))]
  | case3 c rest ih => exact absurd (decimal '_' (by simp)) (by decide)
  | case4 c rest others noUnderscore ih =>
      rw [digits]
      · rw [digitValue_decimal (decimal c (by simp)), ih others fun d member =>
          decimal d (List.mem_cons_of_mem c member)]
        rfl
      · exact others
      · exact noUnderscore

theorem magnitude_toDigits {n : Nat} (short : (Nat.toDigits 10 n).length ≤ maxStrDigits) :
    magnitude (Nat.toDigits 10 n) = some n := by
  have decimal : ∀ c ∈ Nat.toDigits 10 n, c.isDigit = true :=
    fun _ member => Nat.isDigit_of_mem_toDigits (by decide) (by decide) member
  rw [magnitude, digits_decimal Nat.toDigits_ne_nil decimal, Option.bind_some, List.length_map,
    if_neg (Nat.not_lt.2 short), List.foldl_map]
  have value := Nat.ofDigitChars_ten_toDigits (n := n)
  rw [Nat.ofDigitChars] at value
  simp only [Nat.mul_comm _ 10]
  exact congrArg some value

theorem strip_visible {text : List Char} (visible : ∀ c ∈ text, isSpace c = false) :
    strip text = text := by
  have kept {chars : List Char} (seen : ∀ c ∈ chars, isSpace c = false) :
      chars.dropWhile isSpace = chars := by
    cases chars with
    | nil => rfl
    | cons c rest => rw [List.dropWhile_cons_of_neg (by simp [seen c])]
  rw [strip, kept visible, kept fun c member => visible c (List.mem_reverse.1 member),
    List.reverse_reverse]

theorem visible_decimal {c : Char} (digit : c.isDigit = true) : isSpace c = false := by
  obtain ⟨low, high⟩ := Char.isDigit_iff_toNat.1 digit
  simp only [Char.reduceToNat] at low high
  simp only [isSpace, spaces, List.contains_eq_mem, decide_eq_false_iff_not, List.mem_cons,
    List.not_mem_nil, or_false, not_or]
  omega

theorem unsigned_decimal {text : List Char} (decimal : ∀ c ∈ text, c.isDigit = true) :
    unsigned text = (false, text) := by
  unfold unsigned
  split
  next => exact absurd (decimal '-' (by simp)) (by decide)
  next => exact absurd (decimal '+' (by simp)) (by decide)
  next => rfl

/-- `int(str(value))`, below the interpreter's limit on digits. -/
theorem parse_toString {value : Int}
    (short : (Nat.toDigits 10 value.natAbs).length ≤ maxStrDigits) :
    parse (toString value) = some value := by
  have decimal : ∀ c ∈ Nat.toDigits 10 value.natAbs, c.isDigit = true :=
    fun _ member => Nat.isDigit_of_mem_toDigits (by decide) (by decide) member
  have visible : ∀ c ∈ Nat.toDigits 10 value.natAbs, isSpace c = false :=
    fun c member => visible_decimal (decimal c member)
  cases value with
  | ofNat n =>
      have text : (toString (Int.ofNat n)).toList = Nat.toDigits 10 n := Nat.toList_repr
      simp only [Int.natAbs_ofNat'] at *
      rw [parse, text, strip_visible visible, unsigned_decimal decimal]
      simp [magnitude_toDigits short]
  | negSucc n =>
      have text : (toString (Int.negSucc n)).toList = '-' :: Nat.toDigits 10 (n + 1) := by
        rw [Int.toString_eq_repr, Int.repr_eq_if]
        simp
      simp only [Int.natAbs_negSucc, Nat.succ_eq_add_one] at *
      rw [parse, text, strip_visible (List.forall_mem_cons.2 ⟨by decide, visible⟩)]
      simp [unsigned, magnitude_toDigits short]
      omega

end Fleet.PyInt
