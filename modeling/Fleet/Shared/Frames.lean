import Mathlib.Algebra.Group.Nat.Defs
import Mathlib.Data.List.Basic

set_option autoImplicit false

namespace Fleet.Frames

abbrev Bytes := List UInt8

-- A number in so many bytes, the most significant first.
def bigEndian : Nat → Nat → Bytes
  | 0, _ => []
  | width + 1, n => bigEndian width (n / 256) ++ [UInt8.ofNat n]

def ofBigEndian (bytes : Bytes) : Nat := bytes.foldl (fun n byte => n * 256 + byte.toNat) 0

-- What lies between two offsets; an offset beyond the end is the end.
def slice (bytes : Bytes) (start stop : Nat) : Bytes := (bytes.take stop).drop start

def framed (width : Nat) (data : Bytes) : Bytes := bigEndian width data.length ++ data

-- The length at an offset, if all its bytes are there.
def lengthAt (width : Nat) (bytes : Bytes) (offset : Nat) : Option Nat :=
  if offset + width ≤ bytes.length then
    some (ofBigEndian (slice bytes offset (offset + width)))
  else none

section Numbers

@[simp]
theorem length_bigEndian (width n : Nat) : (bigEndian width n).length = width := by
  induction width generalizing n with
  | zero => rfl
  | succ width ih => rw [bigEndian, List.length_append, ih, List.length_singleton]

theorem ofBigEndian_concat (bytes : Bytes) (byte : UInt8) :
    ofBigEndian (bytes ++ [byte]) = ofBigEndian bytes * 256 + byte.toNat := by
  simp [ofBigEndian, List.foldl_append]

theorem ofBigEndian_bigEndian (width n : Nat) (fits : n < 256 ^ width) :
    ofBigEndian (bigEndian width n) = n := by
  induction width generalizing n with
  | zero =>
      obtain rfl : n = 0 := by simpa using fits
      rfl
  | succ width ih =>
      have upper : n / 256 < 256 ^ width := by
        rw [Nat.div_lt_iff_lt_mul (by decide), ← Nat.pow_succ]
        exact fits
      rw [bigEndian, ofBigEndian_concat, ih _ upper, UInt8.toNat_ofNat']
      omega

end Numbers

section Slices

theorem slice_middle (before middle after : Bytes) {start stop : Nat}
    (starts : start = before.length) (stops : stop = before.length + middle.length) :
    slice (before ++ middle ++ after) start stop = middle := by
  rw [slice, starts, stops, ← List.length_append, List.take_left, List.drop_left]

theorem lengthAt_framed (before data after : Bytes) {width : Nat}
    (fits : data.length < 256 ^ width) {offset : Nat} (starts : offset = before.length) :
    lengthAt width (before ++ framed width data ++ after) offset = some data.length := by
  have inside : offset + width ≤ (before ++ framed width data ++ after).length := by
    simp [framed, starts]
  have field : slice (before ++ framed width data ++ after) offset (offset + width) =
      bigEndian width data.length := by
    have regroup : before ++ framed width data ++ after =
        before ++ bigEndian width data.length ++ (data ++ after) := by simp [framed]
    rw [regroup]
    exact slice_middle before _ _ starts (by simp [starts])
  rw [lengthAt, if_pos inside, field, ofBigEndian_bigEndian width _ fits]

theorem slice_framed (before data after : Bytes) {width start stop : Nat}
    (starts : start = before.length + width) (stops : stop = start + data.length) :
    slice (before ++ framed width data ++ after) start stop = data := by
  have regroup : before ++ framed width data ++ after =
      (before ++ bigEndian width data.length) ++ data ++ after := by simp [framed]
  rw [regroup]
  exact slice_middle _ data after (by simp [starts]) (by simp [stops, starts])

end Slices

end Fleet.Frames
