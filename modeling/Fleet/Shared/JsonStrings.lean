import Mathlib.Tactic.IntervalCases
import Fleet.Shared.Json
import Fleet.Shared.PrefixCode

set_option autoImplicit false

namespace Fleet.Json

open PrefixCode

def hexValue (digit : Char) : Nat :=
  if digit.toNat < 58 then digit.toNat - 48 else digit.toNat - 87

def unescapeHex : List Char → Option (Nat × List Char)
  | '\\' :: 'u' :: a :: b :: c :: d :: rest =>
      some (((hexValue a * 16 + hexValue b) * 16 + hexValue c) * 16 + hexValue d, rest)
  | _ => none

def unescapeShort : Char → Char
  | 'n' => Char.ofNat 10
  | 'r' => Char.ofNat 13
  | 't' => Char.ofNat 9
  | 'f' => Char.ofNat 12
  | 'b' => Char.ofNat 8
  | other => other

-- Reads one character back; the first half of a surrogate pair calls for the second.
def unescapeChar (text : List Char) : Option (Char × List Char) :=
  match unescapeHex text with
  | some (code, rest) =>
      if 0xD800 ≤ code ∧ code < 0xDC00 then
        (unescapeHex rest).map fun low =>
          (Char.ofNat (0x10000 + (code - 0xD800) * 0x400 + (low.1 - 0xDC00)), low.2)
      else some (Char.ofNat code, rest)
  | none =>
      match text with
      | '\\' :: short :: rest => some (unescapeShort short, rest)
      | literal :: rest => some (literal, rest)
      | [] => none

theorem hexValue_digitChar {n : Nat} (small : n < 16) : hexValue (Nat.digitChar n) = n := by
  interval_cases n <;> decide

theorem unescapeHex_hexEscape {code : Nat} (bound : code < 0x10000) (rest : List Char) :
    unescapeHex (hexEscape code ++ rest) = some (code, rest) := by
  have value (n : Nat) : hexValue (Nat.digitChar (n % 16)) = n % 16 :=
    hexValue_digitChar (Nat.mod_lt n (by decide))
  have total : ((code / 4096 % 16 * 16 + code / 256 % 16) * 16 + code / 16 % 16) * 16 + code % 16 =
      code := by omega
  simp only [hexEscape, List.cons_append, List.nil_append, unescapeHex, value, total]

theorem unescapeHex_of_ne {first : Char} (other : first ≠ '\\') (rest : List Char) :
    unescapeHex (first :: rest) = none := by
  unfold unescapeHex
  split
  next shape => exact absurd (List.cons.inj shape).1 other
  next => rfl

theorem unescapeChar_literal {first : Char} (other : first ≠ '\\') (rest : List Char) :
    unescapeChar (first :: rest) = some (first, rest) := by
  simp only [unescapeChar, unescapeHex_of_ne other]
  split
  next shape => exact absurd (List.cons.inj shape).1 other
  next shape =>
    obtain ⟨rfl, rfl⟩ := List.cons.inj shape
    rfl
  next shape => cases shape

theorem unescapeChar_basic {c : Char} (basic : c.toNat < 0x10000) (rest : List Char) :
    unescapeChar (hexEscape c.toNat ++ rest) = some (c, rest) := by
  have scalar : c.toNat < 0xD800 ∨ 0xDFFF < c.toNat ∧ c.toNat < 0x110000 := c.valid
  have single : ¬ (0xD800 ≤ c.toNat ∧ c.toNat < 0xDC00) := by omega
  simp only [unescapeChar, unescapeHex_hexEscape basic, single, if_false, Char.ofNat_toNat]

theorem unescapeChar_surrogates {c : Char} (beyond : 0x10000 ≤ c.toNat) (rest : List Char) :
    unescapeChar (hexEscape (0xD800 + (c.toNat - 0x10000) / 0x400) ++
      (hexEscape (0xDC00 + (c.toNat - 0x10000) % 0x400) ++ rest)) = some (c, rest) := by
  have scalar : c.toNat < 0xD800 ∨ 0xDFFF < c.toNat ∧ c.toNat < 0x110000 := c.valid
  have high : 0xD800 + (c.toNat - 0x10000) / 0x400 < 0xDC00 := by omega
  have low : 0xDC00 + (c.toNat - 0x10000) % 0x400 < 0x10000 := by omega
  have total : 0x10000 + (0xD800 + (c.toNat - 0x10000) / 0x400 - 0xD800) * 0x400 +
      (0xDC00 + (c.toNat - 0x10000) % 0x400 - 0xDC00) = c.toNat := by omega
  simp only [unescapeChar, unescapeHex_hexEscape (Nat.lt_trans high (by decide)),
    Nat.le_add_right, high, and_self, if_true, unescapeHex_hexEscape low, Option.map_some,
    total, Char.ofNat_toNat]

theorem unescapeChar_short {c short : Char} {code : Nat} (is : c.toNat = code)
    (reads : unescapeShort short = Char.ofNat code) (other : short ≠ 'u') (rest : List Char) :
    unescapeChar ('\\' :: short :: rest) = some (c, rest) := by
  have value : c = Char.ofNat code := by rw [← is, Char.ofNat_toNat]
  have noHex : unescapeHex ('\\' :: short :: rest) = none := by
    unfold unescapeHex
    split
    next shape => exact absurd (List.cons.inj (List.cons.inj shape).2).1 other
    next => rfl
  simp only [unescapeChar, noHex, reads, value]

theorem unescapeChar_escapeChar (c : Char) (rest : List Char) :
    unescapeChar (escapeChar c ++ rest) = some (c, rest) := by
  unfold escapeChar
  iterate 7
    split
    next is => exact unescapeChar_short is rfl (by decide) rest
  split
  next notSlash _ _ _ _ _ _ =>
    refine unescapeChar_literal ?_ rest
    rintro rfl
    exact notSlash rfl
  split
  next basic => exact unescapeChar_basic basic rest
  next beyond =>
    rw [List.append_assoc]
    exact unescapeChar_surrogates (Nat.le_of_not_lt beyond) rest

theorem escapeChar_started (c : Char) :
    ∃ first others, escapeChar c = first :: others ∧ first ≠ Char.ofNat 34 := by
  unfold escapeChar
  iterate 7
    split
    next => exact ⟨'\\', _, rfl, by decide⟩
  split
  next notQuote _ _ _ _ _ _ _ =>
    refine ⟨c, [], rfl, ?_⟩
    rintro rfl
    exact notQuote rfl
  split
  next => exact ⟨'\\', _, rfl, by decide⟩
  next => exact ⟨'\\', _, rfl, by decide⟩

theorem escapeChar_selfDelimiting : SelfDelimiting escapeChar :=
  selfDelimiting_of_decode unescapeChar unescapeChar_escapeChar

theorem renderString_selfDelimiting : SelfDelimiting renderString := by
  have closed := escapeChar_selfDelimiting.closed escapeChar_started
  have toList : Function.Injective String.toList := fun _ _ => String.toList_injective
  exact (closed.preceded [Char.ofNat 34]).comp toList

theorem render_ofOption (layout : Layout) (value : Option String) :
    render layout (ofOption value) = value.elim "null".toList renderString := by
  cases value <;> simp only [ofOption, render, Option.elim]

/-- A text column and an absent one are never written alike. -/
theorem render_ofOption_selfDelimiting (layout : Layout) :
    SelfDelimiting fun value => render layout (ofOption value) := by
  simp only [render_ofOption]
  refine renderString_selfDelimiting.option fun value => ⟨_, _, rfl, by decide⟩

/-- The members of an object of text and absent columns, under the given keys. -/
def columns (layout : Layout) (keys : List String) (values : List (Option String)) :
    List (List Char) :=
  List.zipWith (fun key value => layout.member (key, render layout (ofOption value))) keys values

theorem member_selfDelimiting (layout : Layout) (key : String) :
    SelfDelimiting fun value => layout.member (key, render layout (ofOption value)) :=
  (render_ofOption_selfDelimiting layout).preceded (renderString key ++ layout.keySeparator.toList)

-- With the keys fixed, the values can be read off however the object goes on.
theorem columns_split (layout : Layout) (keys : List String) (first second : List (Option String))
    (rest rest' : List Char) (covers : first.length = keys.length)
    (covers' : second.length = keys.length)
    (same : layout.join (columns layout keys first) ++ rest =
      layout.join (columns layout keys second) ++ rest') : first = second ∧ rest = rest' := by
  induction keys generalizing first second with
  | nil =>
      obtain rfl := List.length_eq_zero_iff.1 covers
      obtain rfl := List.length_eq_zero_iff.1 covers'
      exact ⟨rfl, same⟩
  | cons key keys ih =>
      obtain ⟨value, values, rfl⟩ := List.exists_cons_of_length_eq_add_one covers
      obtain ⟨value', values', rfl⟩ := List.exists_cons_of_length_eq_add_one covers'
      simp only [List.length_cons, Nat.add_right_cancel_iff] at covers covers'
      cases keys with
      | nil =>
          obtain rfl := List.length_eq_zero_iff.1 covers
          obtain rfl := List.length_eq_zero_iff.1 covers'
          simp only [columns, List.zipWith_cons_cons, List.zipWith_nil_left, Layout.join,
            List.intercalate_singleton] at same
          obtain ⟨rfl, rfl⟩ := member_selfDelimiting layout key _ _ _ _ same
          exact ⟨rfl, rfl⟩
      | cons following keys =>
          obtain ⟨next, others, rfl⟩ := List.exists_cons_of_length_eq_add_one covers
          obtain ⟨next', others', rfl⟩ := List.exists_cons_of_length_eq_add_one covers'
          simp only [columns, List.zipWith_cons_cons, Layout.join, List.intercalate_cons_cons,
            List.append_assoc] at same
          obtain ⟨rfl, tail⟩ := member_selfDelimiting layout key _ _ _ _ same
          have remaining := List.append_cancel_left tail
          obtain ⟨equal, rfl⟩ := ih (next :: others) (next' :: others') covers covers' (by
            simpa only [columns, List.zipWith_cons_cons, Layout.join, List.append_assoc]
              using remaining)
          exact ⟨by rw [equal], rfl⟩

end Fleet.Json
