import Mathlib.Data.List.TakeDrop
import Mathlib.Tactic.Ring

/-!
# Byte strings

Little-endian numbers in byte strings, and the slice of a byte string at an offset.
-/

namespace Gyeeta

open List

/-- A byte string. -/
abbrev Bytes := List UInt8

namespace Bytes

/-- The number with the given little-endian bytes. -/
def toNat : Bytes → Nat
  | [] => 0
  | byte :: rest => byte.toNat + 256 * toNat rest

/-- The little-endian bytes of a number, in a field of the given width. -/
def ofNat : Nat → Nat → Bytes
  | 0, _ => []
  | width + 1, value => UInt8.ofNat (value % 256) :: ofNat width (value / 256)

/-- The `length` bytes at an offset, fewer if the string ends before. -/
def slice (bytes : Bytes) (offset length : Nat) : Bytes :=
  (bytes.drop offset).take length

/-- The unsigned number of the given width at an offset. -/
def field (bytes : Bytes) (offset width : Nat) : Nat :=
  toNat (slice bytes offset width)

/-- The big-endian bytes of a number, in a field of the given width. -/
def ofNatBe (width value : Nat) : Bytes :=
  (ofNat width value).reverse

/-- The unsigned big-endian number of the given width at an offset. -/
def fieldBe (bytes : Bytes) (offset width : Nat) : Nat :=
  toNat (slice bytes offset width).reverse

@[simp] lemma length_ofNat (width value : Nat) : (ofNat width value).length = width := by
  induction width generalizing value with
  | zero => rfl
  | succ width ih => simp [ofNat, ih]

variable {width value offset : Nat}

lemma toNat_ofNat (fits : value < 256 ^ width) : toNat (ofNat width value) = value := by
  induction width generalizing value with
  | zero =>
    rw [pow_zero] at fits
    simp only [ofNat, toNat]
    omega
  | succ width ih =>
    have quotient : value / 256 < 256 ^ width := by
      rw [pow_succ] at fits
      omega
    simp only [ofNat, toNat, ih quotient, UInt8.toNat_ofNat']
    omega

@[simp] lemma length_ofNatBe (width value : Nat) : (ofNatBe width value).length = width := by
  rw [ofNatBe, length_reverse, length_ofNat]

/-! ## Slices -/

@[simp] lemma slice_zero (bytes : Bytes) (length : Nat) :
    slice bytes 0 length = bytes.take length := rfl

@[simp] lemma slice_none (bytes : Bytes) (offset : Nat) : slice bytes offset 0 = [] :=
  take_zero

lemma length_slice (bytes : Bytes) (offset length : Nat) :
    (slice bytes offset length).length = min length (bytes.length - offset) := by
  rw [slice, length_take, length_drop]

lemma slice_append_left {front : Bytes} (back : Bytes) {length : Nat}
    (inside : offset + length ≤ front.length) :
    slice (front ++ back) offset length = slice front offset length := by
  rw [slice, slice, drop_append_of_le_length (by omega),
    take_append_of_le_length (by rw [length_drop]; omega)]

lemma slice_append_right (front back : Bytes) (offset length : Nat) :
    slice (front ++ back) (front.length + offset) length = slice back offset length := by
  rw [slice, slice, drop_length_add_append]

lemma slice_slice (bytes : Bytes) {start room length : Nat} (inside : offset + length ≤ room) :
    slice (slice bytes start room) offset length = slice bytes (start + offset) length := by
  rw [slice, slice, slice, drop_take, drop_drop, take_take]
  congr 1
  omega

lemma field_append_left {front : Bytes} (back : Bytes) (inside : offset + width ≤ front.length) :
    field (front ++ back) offset width = field front offset width := by
  rw [field, field, slice_append_left back inside]

lemma field_take (bytes : Bytes) {count : Nat} (inside : offset + width ≤ count) :
    field (bytes.take count) offset width = field bytes offset width := by
  rw [field, field, ← slice_zero, slice_slice bytes inside, Nat.zero_add]

lemma fieldBe_take (bytes : Bytes) {count : Nat} (inside : offset + width ≤ count) :
    fieldBe (bytes.take count) offset width = fieldBe bytes offset width := by
  rw [fieldBe, fieldBe, ← slice_zero, slice_slice bytes inside, Nat.zero_add]

lemma fieldBe_ofNatBe (fits : value < 256 ^ width) (front back : Bytes) :
    fieldBe (front ++ ofNatBe width value ++ back) front.length width = value := by
  have written := slice_append_right front (ofNatBe width value ++ back) 0 width
  rw [Nat.add_zero, slice_zero, take_left' (length_ofNatBe width value)] at written
  rw [fieldBe, append_assoc, written, ofNatBe, reverse_reverse, toNat_ofNat fits]

lemma field_ofNat (fits : value < 256 ^ width) (front back : Bytes) :
    field (front ++ ofNat width value ++ back) front.length width = value := by
  have written := slice_append_right front (ofNat width value ++ back) 0 width
  rw [Nat.add_zero, slice_zero, take_left' (length_ofNat width value)] at written
  rw [field, append_assoc, written, toNat_ofNat fits]

end Bytes

end Gyeeta
