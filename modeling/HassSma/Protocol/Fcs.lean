/-
  The FCS-16 checksum of the L2 payload (`sma-bt-protocol/src/fcs.rs`).

  A 16-bit register, preset to `0xFFFF`, absorbs one byte per step through a 256-entry table and is
  complemented at the end.  Each table entry is eight shifts of its index against the reflected
  polynomial `0x8408`.

  The reference is PPP's FCS-16 bit by bit, as a shift register (`serialFcs`).  One byte through the
  table is eight bits through the register (`toBitVec_update`); the rest is the theory of shift
  registers: the residue of RFC 1662, and that no burst of 16 bits goes unseen.
-/
import HassSma.Lib.ShiftRegister

namespace HassSma

/-- One iteration of the table's inner loop. -/
def fcsShift (v : UInt16) : UInt16 :=
  if v &&& 1 != 0 then (v >>> 1) ^^^ 0x8408 else v >>> 1

/-- `FCS_TAB`: eight shifts of each index. -/
def fcsTab : Vector UInt16 256 := Vector.ofFn fun b => fcsShift^[8] (UInt16.ofNat b)

/-- The streaming calculator: its register. -/
structure Fcs16 where
  reg : UInt16
  deriving DecidableEq, Repr

theorem low_byte_lt (v : UInt16) : (v &&& 0xFF).toNat < 256 := by
  rw [UInt16.toNat_and]
  exact Nat.lt_of_le_of_lt Nat.and_le_right (by decide)

namespace Fcs16

def new : Fcs16 := ⟨0xFFFF⟩

/-- Absorb a single byte. -/
def update (f : Fcs16) (byte : UInt8) : Fcs16 :=
  ⟨(f.reg >>> 8) ^^^ fcsTab.get ⟨((f.reg ^^^ byte.toUInt16) &&& 0xFF).toNat, low_byte_lt _⟩⟩

/-- Absorb a slice. -/
def updateSlice (f : Fcs16) (bytes : List UInt8) : Fcs16 := bytes.foldl update f

/-- The checksum as emitted on the wire. -/
def finalize (f : Fcs16) : UInt16 := f.reg ^^^ 0xFFFF

end Fcs16

namespace Fcs

/-- The FCS-16 of a byte string. -/
def compute (data : List UInt8) : UInt16 := (Fcs16.new.updateSlice data).finalize

example : compute [0x31, 0x32, 0x33, 0x34, 0x35, 0x36, 0x37, 0x38, 0x39] = 0x906E := by
  decide +kernel

end Fcs

/-! ## The reference -/

/-- The bits of a byte in the order of transmission, the least significant one first. -/
def byteBits (b : UInt8) : List Bool := (List.range 8).map b.toBitVec.getLsbD

/-- The bits of a message in the order of transmission. -/
def wireBits (m : List UInt8) : List Bool := m.flatMap byteBits

/-- The register of PPP's FCS-16: `x^16 + x^12 + x^5 + 1`, reflected. -/
def ppp : ShiftRegister 16 := ⟨0x8408, by decide⟩

/-- PPP's FCS-16 bit by bit: preset to all ones, complemented at the end. -/
def serialFcs (m : List UInt8) : BitVec 16 := ~~~ ppp.absorb 0xFFFF (wireBits m)

@[simp] theorem length_byteBits (b : UInt8) : (byteBits b).length = 8 := by
  rw [byteBits, List.length_map, List.length_range]

theorem word_byteBits (b : UInt8) : ShiftRegister.word 16 (byteBits b) = b.toUInt16.toBitVec := by
  apply BitVec.eq_of_getLsbD_eq
  intro i hi
  rw [ShiftRegister.getLsbD_word, byteBits, UInt8.toBitVec_toUInt16, BitVec.getLsbD_setWidth]
  rcases Nat.lt_or_ge i 8 with hlow | hhigh
  · rw [List.getD_eq_getElem _ _ (by simpa using hlow), List.getElem_map, List.getElem_range]
  · rw [List.getD_eq_default _ _ (by simpa using hhigh), BitVec.getLsbD_of_ge _ _ hhigh]

theorem byteBits_injective : Function.Injective byteBits := by
  intro b c h
  have hword := congrArg (ShiftRegister.word 16) h
  rw [word_byteBits, word_byteBits] at hword
  exact UInt8.toUInt16_inj.mp (UInt16.toBitVec_inj.mp hword)

theorem length_wireBits (m : List UInt8) : (wireBits m).length = 8 * m.length := by
  induction m with
  | nil => rfl
  | cons b m ih =>
    show (byteBits b ++ wireBits m).length = _
    rw [List.length_append, length_byteBits, ih, List.length_cons]
    omega

theorem wireBits_injective : Function.Injective wireBits := by
  intro a b h
  have hlen : a.length = b.length := by
    have hbits := congrArg List.length h
    rw [length_wireBits, length_wireBits] at hbits
    omega
  induction a generalizing b with
  | nil => exact (List.eq_nil_of_length_eq_zero hlen.symm).symm
  | cons c a ih =>
    cases b with
    | nil => nomatch hlen
    | cons d b =>
      have happend : byteBits c ++ wireBits a = byteBits d ++ wireBits b := h
      obtain ⟨hbyte, hrest⟩ := List.append_inj happend (by simp)
      rw [byteBits_injective hbyte, ih hrest (Nat.succ.inj hlen)]

/-! ## One byte through the table -/

/-- The inner loop shifts as the register does. -/
theorem toBitVec_fcsShift (v : UInt16) : (fcsShift v).toBitVec = ppp.shift v.toBitVec := by
  have hbit : (v &&& 1).toBitVec = ShiftRegister.lowBit 16 (v.toBitVec.getLsbD 0) := by
    rw [UInt16.toBitVec_and]
    exact BitVec.and_one_eq_setWidth_ofBool_getLsbD
  rw [fcsShift, ShiftRegister.shift]
  cases hlow : v.toBitVec.getLsbD 0 with
  | false =>
    have hzero : v &&& 1 = 0 := UInt16.toBitVec_inj.mp (hbit.trans (by rw [hlow]; rfl))
    rw [hzero]
    rfl
  | true =>
    have hone : v &&& 1 = 1 := UInt16.toBitVec_inj.mp (hbit.trans (by rw [hlow]; rfl))
    rw [hone]
    rfl

theorem toBitVec_fcsShift_iterate (n : Nat) (v : UInt16) :
    (fcsShift^[n] v).toBitVec = ppp.shift^[n] v.toBitVec := by
  induction n generalizing v with
  | zero => rfl
  | succ n ih =>
    rw [Function.iterate_succ_apply, Function.iterate_succ_apply, ih, toBitVec_fcsShift]

/-- The mask of the low byte. -/
theorem getLsbD_lowByte {i : Nat} (hi : i < 16) :
    (0xFF : UInt16).toBitVec.getLsbD i = decide (i < 8) := by
  have hmask : ∀ i < 16, (0xFF : UInt16).toBitVec.getLsbD i = decide (i < 8) := by decide
  exact hmask i hi

/-- The table entry of a register's low byte. -/
theorem fcsTab_get (v : UInt16) :
    fcsTab.get ⟨(v &&& 0xFF).toNat, low_byte_lt v⟩ = fcsShift^[8] (v &&& 0xFF) := by
  have hentry := Vector.getElem_ofFn (f := fun b : Fin 256 => fcsShift^[8] (UInt16.ofNat b)) (low_byte_lt v)
  rw [UInt16.ofNat_toNat] at hentry
  exact hentry

namespace Fcs16

/-- **One byte through the table is eight bits through the register.** -/
theorem toBitVec_update (f : Fcs16) (byte : UInt8) :
    (f.update byte).reg.toBitVec = ppp.absorb f.reg.toBitVec (byteBits byte) := by
  have hlow : ((f.reg ^^^ byte.toUInt16) &&& 0xFF).toBitVec
      = ((f.reg ^^^ byte.toUInt16).toBitVec.setWidth 8).setWidth 16 := by
    apply BitVec.eq_of_getLsbD_eq
    intro i hi
    rw [UInt16.toBitVec_and, BitVec.getLsbD_and, getLsbD_lowByte hi, BitVec.getLsbD_setWidth,
      BitVec.getLsbD_setWidth, decide_eq_true hi, Bool.true_and, Bool.and_comm]
  -- the byte is in the low eight bits, which the move drops
  have hmove : (f.reg ^^^ byte.toUInt16).toBitVec >>> 8 = f.reg.toBitVec >>> 8 := by
    have hbyte : byte.toUInt16.toBitVec >>> 8 = 0 := by
      apply BitVec.eq_of_getLsbD_eq
      intro i _
      rw [BitVec.getLsbD_ushiftRight, UInt8.toBitVec_toUInt16, BitVec.getLsbD_setWidth,
        BitVec.getLsbD_of_ge _ _ (Nat.le_add_right 8 i), Bool.and_false]
      exact (BitVec.getLsbD_zero).symm
    rw [UInt16.toBitVec_xor, BitVec.ushiftRight_xor_distrib, hbyte]
    exact BitVec.xor_zero
  rw [ppp.absorb_eq (by simp), length_byteBits, word_byteBits, ← UInt16.toBitVec_xor,
    ppp.shift_iterate_split, hmove, update, fcsTab_get, UInt16.toBitVec_xor,
    toBitVec_fcsShift_iterate, hlow]
  rfl

/-- A slice through the table is its bits through the register. -/
theorem toBitVec_updateSlice (f : Fcs16) (bytes : List UInt8) :
    (f.updateSlice bytes).reg.toBitVec = ppp.absorb f.reg.toBitVec (wireBits bytes) := by
  induction bytes generalizing f with
  | nil => rfl
  | cons b bytes ih =>
    show ((f.update b).updateSlice bytes).reg.toBitVec = ppp.absorb _ (byteBits b ++ wireBits bytes)
    rw [ih, toBitVec_update, ppp.absorb_append]

theorem updateSlice_append (f : Fcs16) (a b : List UInt8) :
    f.updateSlice (a ++ b) = (f.updateSlice a).updateSlice b := List.foldl_append

theorem toBitVec_finalize (f : Fcs16) : f.finalize.toBitVec = ~~~f.reg.toBitVec := by
  rw [finalize, UInt16.toBitVec_xor]
  exact BitVec.xor_allOnes

/-! ## Calls in any split -/

inductive Call where
  | update (byte : UInt8)
  | updateSlice (bytes : List UInt8)

/-- The calculator behind some calls. -/
def run (f : Fcs16) : List Call → Fcs16
  | [] => f
  | .update byte :: calls => (f.update byte).run calls
  | .updateSlice bytes :: calls => (f.updateSlice bytes).run calls

/-- The bytes that were fed in. -/
def fed : List Call → List UInt8
  | [] => []
  | .update byte :: calls => byte :: fed calls
  | .updateSlice bytes :: calls => bytes ++ fed calls

/-- How the bytes are split makes no difference. -/
theorem run_eq_updateSlice (f : Fcs16) (calls : List Call) : f.run calls = f.updateSlice (fed calls) := by
  induction calls generalizing f with
  | nil => rfl
  | cons call calls ih =>
    cases call with
    | update byte =>
      rw [run, ih, fed]
      rfl
    | updateSlice bytes => rw [run, ih, fed, updateSlice_append]

end Fcs16

namespace Fcs

theorem toBitVec_compute (m : List UInt8) : (compute m).toBitVec = serialFcs m := by
  rw [compute, Fcs16.toBitVec_finalize, Fcs16.toBitVec_updateSlice, serialFcs]
  rfl

/-- The two bytes of a checksum on the wire hold its bits in order. -/
theorem word_wireBits_le (v : UInt16) :
    ShiftRegister.word 16 (wireBits [(v &&& 0xFF).toUInt8, (v >>> 8).toUInt8]) = v.toBitVec := by
  have hbits : wireBits [(v &&& 0xFF).toUInt8, (v >>> 8).toUInt8]
      = (List.range 16).map v.toBitVec.getLsbD := by
    show byteBits _ ++ (byteBits _ ++ []) = _
    rw [List.append_nil, byteBits, byteBits, show List.range 16 = _ from List.range_add (n := 8) (m := 8),
      List.map_append, List.map_map]
    congr 1
    · apply List.map_congr_left
      intro i hi
      have hi' : i < 8 := List.mem_range.mp hi
      rw [UInt16.toBitVec_toUInt8, BitVec.getLsbD_setWidth, UInt16.toBitVec_and, BitVec.getLsbD_and,
        getLsbD_lowByte (by omega), decide_eq_true hi', Bool.true_and, Bool.and_true]
    · apply List.map_congr_left
      intro i hi
      have hi' : i < 8 := List.mem_range.mp hi
      rw [UInt16.toBitVec_toUInt8, BitVec.getLsbD_setWidth, decide_eq_true hi', Bool.true_and]
      exact BitVec.getLsbD_ushiftRight v.toBitVec 8 i
  apply BitVec.eq_of_getLsbD_eq
  intro i hi
  rw [hbits, ShiftRegister.getLsbD_word, decide_eq_true hi, Bool.true_and,
    List.getD_eq_getElem _ _ (by simpa using hi), List.getElem_map, List.getElem_range]

/-- **The table-driven checksum is PPP's FCS-16**, in whatever pieces the bytes are fed in.  A message
    with its checksum behind it, low byte first, leaves the register at the residue of RFC 1662. -/
theorem compute_is_ppp :
    (∀ calls : List Fcs16.Call,
      (Fcs16.new.run calls).finalize.toBitVec = serialFcs (Fcs16.fed calls)) ∧
    ∀ m : List UInt8,
      (Fcs16.new.updateSlice
        (m ++ [(compute m &&& 0xFF).toUInt8, (compute m >>> 8).toUInt8])).reg = 0xF0B8 := by
  constructor
  · intro calls
    rw [Fcs16.run_eq_updateSlice]
    exact toBitVec_compute (Fcs16.fed calls)
  · intro m
    have hword := word_wireBits_le (compute m)
    have hresidue : ppp.shift^[16] (BitVec.allOnes 16) = 0xF0B8 := by decide +kernel
    rw [compute, Fcs16.toBitVec_finalize] at hword
    apply UInt16.toBitVec_inj.mp
    rw [Fcs16.updateSlice_append, Fcs16.toBitVec_updateSlice]
    exact (ppp.absorb_complement (by rw [length_wireBits]; rfl) hword).trans hresidue

/-- **Every short burst is detected**: two messages of one length that differ, and whose differing bits
    lie within 16 in a row, have different checksums. -/
theorem compute_ne_of_burst {a b : List UInt8} (hlen : a.length = b.length) (hne : a ≠ b) {i : Nat}
    (hwindow : ∀ k, (wireBits a)[k]? ≠ (wireBits b)[k]? → i ≤ k ∧ k < i + 16) :
    compute a ≠ compute b := by
  intro h
  have hserial : serialFcs a = serialFcs b := by
    rw [← toBitVec_compute, ← toBitVec_compute, h]
  have hregs := BitVec.not_inj.mp hserial
  have hbits : (wireBits a).length = (wireBits b).length := by
    rw [length_wireBits, length_wireBits, hlen]
  exact ppp.absorb_ne_of_burst hbits (fun heq => hne (wireBits_injective heq)) hwindow 0xFFFF hregs

/-- A burst that starts at the last bit of a byte and reaches over three bytes. -/
theorem compute_ne_of_burst_unaligned :
    compute [0x31, 0x00, 0x00, 0x00] ≠ compute [0x31, 0x80, 0xFF, 0x7F] := by
  have hwindow : ∀ k, (wireBits [0x31, 0x00, 0x00, 0x00])[k]? ≠ (wireBits [0x31, 0x80, 0xFF, 0x7F])[k]? →
      15 ≤ k ∧ k < 15 + 16 := by
    intro k hk
    rcases Nat.lt_or_ge k 32 with hin | hout
    · have hbits : ∀ k < 32,
          (wireBits [0x31, 0x00, 0x00, 0x00])[k]? ≠ (wireBits [0x31, 0x80, 0xFF, 0x7F])[k]? →
            15 ≤ k ∧ k < 15 + 16 := by decide +kernel
      exact hbits k hin hk
    · rw [List.getElem?_eq_none (by simpa [length_wireBits] using hout),
        List.getElem?_eq_none (by simpa [length_wireBits] using hout)] at hk
      exact absurd rfl hk
  exact compute_ne_of_burst rfl (by decide) hwindow

end Fcs

end HassSma
