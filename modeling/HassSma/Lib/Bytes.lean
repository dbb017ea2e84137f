/-
  Byte strings: contiguous slices, and little-endian words of any width.

  A byte string is a `List UInt8`.  `slice d i j` is the sub-string `d[i..j]`; `toBytes w n` writes
  the low `w` bytes of `n`, least significant first, and `ofBytes` reads a byte string back as a
  natural number.  The two are inverse to each other once the width is fixed (`ofBytes_toBytes`,
  `toBytes_ofBytes`), so a record of fixed-width fields written one after the other is read back by
  slicing at the fields' offsets (`slice_append_right`, `slice_zero_append`).

  The fixed-width readers and writers (`readU16` .. `writeU32`) are `ofBytes`/`toBytes` at widths
  2, 4 and 8, with the machine word's own type.
-/
import Mathlib.Data.Nat.Digits.Lemmas

namespace Bytes

/-! ## Slices -/

/-- `slice d i j` = the bytes at positions `i`, …, `j - 1` of `d`. -/
def slice (d : List UInt8) (i j : Nat) : List UInt8 := (d.drop i).take (j - i)

/-- The byte at position `i`, `0` past the end. -/
def byteAt (d : List UInt8) (i : Nat) : UInt8 := d.getD i 0

theorem byteAt_eq_getElem {d : List UInt8} {i : Nat} (h : i < d.length) : byteAt d i = d[i] := by
  rw [byteAt, List.getD_eq_getElem?_getD, List.getElem?_eq_getElem h, Option.getD_some]

@[simp] theorem length_slice (d : List UInt8) (i j : Nat) :
    (slice d i j).length = min (j - i) (d.length - i) := by
  simp [slice]

/-- Slicing past a known front part. -/
theorem slice_append_right {a b : List UInt8} {i j : Nat} (h : a.length ≤ i) :
    slice (a ++ b) i j = slice b (i - a.length) (j - a.length) := by
  have hdrop : (a ++ b).drop i = b.drop (i - a.length) := by
    rw [List.drop_append, List.drop_eq_nil_of_le h, List.nil_append]
  rw [slice, slice, hdrop, show j - a.length - (i - a.length) = j - i by omega]

/-- The slice that starts at `0` and ends where the front part ends is the front part. -/
theorem slice_zero_append (a b : List UInt8) : slice (a ++ b) 0 a.length = a := by
  simp [slice]

/-- Two adjacent slices are one. -/
theorem slice_append_slice (d : List UInt8) {i j k : Nat} (hij : i ≤ j) (hjk : j ≤ k) :
    slice d i j ++ slice d j k = slice d i k := by
  have hdrop : d.drop j = (d.drop i).drop (j - i) := by
    rw [List.drop_drop, show i + (j - i) = j by omega]
  rw [slice, slice, slice, hdrop, show k - i = (j - i) + (k - j) by omega, List.take_add]

/-- A slice by its start and its length. -/
theorem slice_add (d : List UInt8) (i n : Nat) : slice d i (i + n) = (d.drop i).take n := by
  rw [slice, Nat.add_sub_cancel_left]

/-- One byte of the string, as a slice. -/
theorem slice_byte {d : List UInt8} {i : Nat} (h : i < d.length) : slice d i (i + 1) = [byteAt d i] := by
  rw [slice_add, List.drop_eq_getElem_cons h, List.take_succ_cons, List.take_zero,
    byteAt_eq_getElem h]

/-! ## Little-endian numbers -/

/-- The low `w` bytes of `n`, least significant first. -/
def toBytes : Nat → Nat → List UInt8
  | 0, _ => []
  | w + 1, n => UInt8.ofNat n :: toBytes w (n / 256)

/-- The number a byte string denotes, least significant byte first. -/
def ofBytes : List UInt8 → Nat
  | [] => 0
  | b :: bs => b.toNat + 256 * ofBytes bs

theorem ofBytes_eq_ofDigits (bs : List UInt8) :
    ofBytes bs = Nat.ofDigits 256 (bs.map UInt8.toNat) := by
  induction bs with
  | nil => rfl
  | cons b bs ih => rw [List.map_cons, Nat.ofDigits_cons, ofBytes, ih]

theorem ofBytes_lt (bs : List UInt8) : ofBytes bs < 256 ^ bs.length := by
  rw [ofBytes_eq_ofDigits, ← List.length_map UInt8.toNat]
  refine Nat.ofDigits_lt_base_pow_length (by omega) fun x hx => ?_
  obtain ⟨b, -, rfl⟩ := List.mem_map.mp hx
  exact b.toNat_lt

@[simp] theorem length_toBytes (w n : Nat) : (toBytes w n).length = w := by
  induction w generalizing n with
  | zero => rfl
  | succ w ih => rw [toBytes, List.length_cons, ih]

theorem ofBytes_toBytes (w n : Nat) : ofBytes (toBytes w n) = n % 256 ^ w := by
  induction w generalizing n with
  | zero => rw [toBytes, ofBytes, Nat.pow_zero, Nat.mod_one]
  | succ w ih =>
    rw [toBytes, ofBytes, ih, Nat.pow_succ', Nat.mod_mul, UInt8.toNat_ofNat']

theorem toBytes_ofBytes (bs : List UInt8) : toBytes bs.length (ofBytes bs) = bs := by
  induction bs with
  | nil => rfl
  | cons b bs ih =>
    have hb := b.toNat_lt
    have hdiv : (b.toNat + 256 * ofBytes bs) / 256 = ofBytes bs := by omega
    have hlow : UInt8.ofNat (b.toNat + 256 * ofBytes bs) = b := by
      apply UInt8.toNat_inj.mp
      rw [UInt8.toNat_ofNat']; omega
    rw [List.length_cons, ofBytes, toBytes, hdiv, hlow, ih]

/-! ## Machine words -/

/-- The word at the front of `d`. -/
def readU16 (d : List UInt8) : UInt16 := UInt16.ofNat (ofBytes (d.take 2))
def readU32 (d : List UInt8) : UInt32 := UInt32.ofNat (ofBytes (d.take 4))
def readU64 (d : List UInt8) : UInt64 := UInt64.ofNat (ofBytes (d.take 8))

def writeU16 (x : UInt16) : List UInt8 := toBytes 2 x.toNat
def writeU32 (x : UInt32) : List UInt8 := toBytes 4 x.toNat

theorem writeU16_eq (x : UInt16) :
    writeU16 x = [UInt8.ofNat x.toNat, UInt8.ofNat (x.toNat / 256)] := rfl
theorem writeU32_eq (x : UInt32) :
    writeU32 x = [UInt8.ofNat x.toNat, UInt8.ofNat (x.toNat / 256),
      UInt8.ofNat (x.toNat / 256 / 256), UInt8.ofNat (x.toNat / 256 / 256 / 256)] := rfl

@[simp] theorem length_writeU16 (x : UInt16) : (writeU16 x).length = 2 := length_toBytes 2 _
@[simp] theorem length_writeU32 (x : UInt32) : (writeU32 x).length = 4 := length_toBytes 4 _

@[simp] theorem readU16_writeU16 (x : UInt16) : readU16 (writeU16 x) = x := by
  rw [readU16, List.take_of_length_le (by simp), writeU16, ofBytes_toBytes,
    Nat.mod_eq_of_lt (by simpa using x.toNat_lt), UInt16.ofNat_toNat]

@[simp] theorem readU32_writeU32 (x : UInt32) : readU32 (writeU32 x) = x := by
  rw [readU32, List.take_of_length_le (by simp), writeU32, ofBytes_toBytes,
    Nat.mod_eq_of_lt (by simpa using x.toNat_lt), UInt32.ofNat_toNat]

/-- Bytes of a word's width are the word they denote, written out. -/
theorem writeU16_readU16 {d : List UInt8} (h : d.length = 2) : writeU16 (readU16 d) = d := by
  have hlt := ofBytes_lt d
  rw [h] at hlt
  rw [readU16, List.take_of_length_le h.le, writeU16, UInt16.toNat_ofNat_of_lt' (by simpa using hlt),
    ← h, toBytes_ofBytes]

theorem writeU32_readU32 {d : List UInt8} (h : d.length = 4) : writeU32 (readU32 d) = d := by
  have hlt := ofBytes_lt d
  rw [h] at hlt
  rw [readU32, List.take_of_length_le h.le, writeU32, UInt32.toNat_ofNat_of_lt' (by simpa using hlt),
    ← h, toBytes_ofBytes]

end Bytes
