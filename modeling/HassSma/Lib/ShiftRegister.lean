/-
  Shift registers with feedback, of any width.

  A `ShiftRegister w` is the word that comes back into a register of `w` bits when the bit that is
  shifted out at the low end is a one.  Its top bit is set, so that no shift forgets anything:
  `shift` is injective (`shift_injective`).

  A register absorbs a message bit by bit: the bit is added to the low end, and the register is
  shifted.  Everything here goes by one fact (`absorb_eq`): as long as there are no more bits than
  the register is wide, absorbing them is adding them all at once and then shifting.

  * **Tables**: of a register shifted `k` times, only the low `k` bits go through the feedback
    (`shift_iterate_split`), so that absorbing `k` bits is a move and one word that depends on `k` bits.
  * **Residue**: a message with its own register behind it, complemented, leaves a constant
    (`absorb_complement`).
  * **Bursts**: two messages that differ within a window as wide as the register leave different
    registers, wherever the window is (`absorb_ne_of_burst`).
-/
import Mathlib.Data.List.GetD
import Mathlib.Logic.Function.Iterate

/-- The word fed back when a one falls out at the low end. -/
structure ShiftRegister (w : Nat) where
  feedback : BitVec w
  feedback_msb : feedback.msb = true

namespace ShiftRegister

/-! ## Words from bits -/

/-- A register with the one bit `b` at its low end. -/
def lowBit (w : Nat) (b : Bool) : BitVec w := (BitVec.ofBool b).setWidth w

/-- The first `w` of the bits, the first one at the low end. -/
def word (w : Nat) : List Bool → BitVec w
  | [] => 0
  | b :: bits => (word w bits <<< 1) ^^^ lowBit w b

theorem getLsbD_lowBit (w : Nat) (b : Bool) (i : Nat) :
    (lowBit w b).getLsbD i = (decide (i < w) && decide (i = 0) && b) := by
  rw [lowBit, BitVec.getLsbD_setWidth, BitVec.getLsbD_ofBool, Bool.and_assoc]

theorem getLsbD_word (w : Nat) (bits : List Bool) (i : Nat) :
    (word w bits).getLsbD i = (decide (i < w) && bits.getD i false) := by
  induction bits generalizing i with
  | nil => simp [word]
  | cons b bits ih =>
    rw [word, BitVec.getLsbD_xor, BitVec.getLsbD_shiftLeft, getLsbD_lowBit, ih]
    cases i with
    | zero => simp
    | succ i =>
      rw [List.getD_cons_succ, Nat.add_sub_cancel]
      by_cases hi : i + 1 < w
      · have hi' : i < w := by omega
        simp [hi, hi']
      · simp [hi]

/-- Bits that fit are read back from their word. -/
theorem word_injective {w : Nat} {a b : List Bool} (hlen : a.length = b.length)
    (hfit : a.length ≤ w) (h : word w a = word w b) : a = b := by
  apply List.ext_getElem hlen
  intro i ha hb
  have hbit := congrArg (BitVec.getLsbD · i) h
  simp only [getLsbD_word] at hbit
  rw [List.getD_eq_getElem _ _ ha, List.getD_eq_getElem _ _ hb] at hbit
  have hi : i < w := by omega
  simpa [hi] using hbit

/-! ## Shifting -/

variable {w : Nat} (R : ShiftRegister w)

/-- Shift towards the low end; a one that falls out comes back as the feedback word. -/
def shift (r : BitVec w) : BitVec w :=
  if r.getLsbD 0 then (r >>> 1) ^^^ R.feedback else r >>> 1

/-- **Shifting is linear.** -/
theorem shift_xor (a b : BitVec w) : R.shift (a ^^^ b) = R.shift a ^^^ R.shift b := by
  simp only [shift, BitVec.getLsbD_xor, BitVec.ushiftRight_xor_distrib]
  have hcancel : ∀ x y f : BitVec w, x ^^^ f ^^^ (y ^^^ f) = x ^^^ y := by
    intro x y f
    rw [BitVec.xor_comm y f, BitVec.xor_assoc, ← BitVec.xor_assoc f f y, BitVec.xor_self,
      BitVec.zero_xor]
  cases a.getLsbD 0 <;> cases b.getLsbD 0
  · rfl
  · exact BitVec.xor_assoc _ _ _
  · show a >>> 1 ^^^ b >>> 1 ^^^ R.feedback = a >>> 1 ^^^ R.feedback ^^^ b >>> 1
    rw [BitVec.xor_assoc, BitVec.xor_comm (b >>> 1), ← BitVec.xor_assoc]
  · exact (hcancel (a >>> 1) (b >>> 1) R.feedback).symm

theorem shift_iterate_xor (n : Nat) (a b : BitVec w) :
    R.shift^[n] (a ^^^ b) = R.shift^[n] a ^^^ R.shift^[n] b := by
  induction n generalizing a b with
  | zero => rfl
  | succ n ih => rw [Function.iterate_succ_apply, shift_xor, ih]; rfl

/-- The top bit behind a shift is the bit that fell out. -/
theorem msb_shift (r : BitVec w) : (R.shift r).msb = r.getLsbD 0 := by
  have hpos : 0 < w := by
    rcases Nat.eq_zero_or_pos w with rfl | hpos
    · have hmsb := R.feedback_msb
      rw [BitVec.msb_eq_getLsbD_last, BitVec.getLsbD_of_ge _ _ (by omega)] at hmsb
      nomatch hmsb
    · exact hpos
  have hmove : (r >>> 1).msb = false := by
    rw [BitVec.msb_eq_getLsbD_last, BitVec.getLsbD_ushiftRight, BitVec.getLsbD_of_ge _ _ (by omega)]
  rw [shift]
  split
  · rename_i hlow
    rw [BitVec.msb_xor, hmove, R.feedback_msb, hlow]
    rfl
  · rename_i hlow
    rw [hmove, Bool.eq_false_iff.mpr hlow]

/-- **A shift forgets nothing**: the top bit tells whether the feedback came in. -/
theorem shift_injective : Function.Injective R.shift := by
  intro a b h
  have hlow : a.getLsbD 0 = b.getLsbD 0 := by
    rw [← R.msb_shift a, ← R.msb_shift b, h]
  have hmove : a >>> 1 = b >>> 1 := by
    rw [shift, shift, hlow] at h
    split at h
    · exact (BitVec.xor_left_inj R.feedback).mp h
    · exact h
  apply BitVec.eq_of_getLsbD_eq
  intro i _
  cases i with
  | zero => exact hlow
  | succ i =>
    have hbit := congrArg (BitVec.getLsbD · i) hmove
    simp only [BitVec.getLsbD_ushiftRight] at hbit
    rwa [Nat.add_comm] at hbit

/-- A register whose low bits are clear only moves. -/
theorem shift_iterate_of_clear {n : Nat} {r : BitVec w} (h : ∀ i < n, r.getLsbD i = false) :
    R.shift^[n] r = r >>> n := by
  induction n with
  | zero => simp
  | succ n ih =>
    have hlow : (r >>> n).getLsbD 0 = false := by
      rw [BitVec.getLsbD_ushiftRight]
      exact h (n + 0) (by omega)
    rw [Function.iterate_succ_apply', ih fun i hi => h i (by omega), shift, hlow]
    exact (BitVec.shiftRight_add r n 1).symm

/-- **Only the low `n` bits go through the feedback** in `n` shifts; the rest moves. -/
theorem shift_iterate_split (n : Nat) (r : BitVec w) :
    R.shift^[n] r = (r >>> n) ^^^ R.shift^[n] ((r.setWidth n).setWidth w) := by
  have hbits : ∀ i, ((r.setWidth n).setWidth w).getLsbD i
      = (decide (i < w) && (decide (i < n) && r.getLsbD i)) := by
    intro i
    rw [BitVec.getLsbD_setWidth, BitVec.getLsbD_setWidth]
  -- the register is its low bits and the rest, and what is left of the rest only moves
  have hsplit : r = (r ^^^ (r.setWidth n).setWidth w) ^^^ (r.setWidth n).setWidth w := by
    rw [BitVec.xor_assoc, BitVec.xor_self, BitVec.xor_zero]
  have hclear : ∀ i < n, (r ^^^ (r.setWidth n).setWidth w).getLsbD i = false := by
    intro i hi
    rw [BitVec.getLsbD_xor, hbits]
    by_cases hw : i < w
    · rw [decide_eq_true hw, decide_eq_true hi, Bool.true_and, Bool.true_and, Bool.xor_self]
    · rw [BitVec.getLsbD_of_ge r i (by omega), Bool.and_false, Bool.and_false]
      rfl
  have hmove : (r ^^^ (r.setWidth n).setWidth w) >>> n = r >>> n := by
    apply BitVec.eq_of_getLsbD_eq
    intro i _
    rw [BitVec.getLsbD_ushiftRight, BitVec.getLsbD_ushiftRight, BitVec.getLsbD_xor, hbits,
      decide_eq_false (show ¬ n + i < n by omega), Bool.false_and, Bool.and_false, Bool.xor_false]
  have hshift := congrArg R.shift^[n] hsplit
  rwa [shift_iterate_xor, R.shift_iterate_of_clear hclear, hmove] at hshift

/-! ## Absorbing a message -/

/-- One bit: added to the low end, then a shift. -/
def feed (r : BitVec w) (b : Bool) : BitVec w := R.shift (r ^^^ lowBit w b)

/-- The register behind a message. -/
def absorb (r : BitVec w) (bits : List Bool) : BitVec w := bits.foldl R.feed r

theorem absorb_append (r : BitVec w) (a b : List Bool) :
    R.absorb r (a ++ b) = R.absorb (R.absorb r a) b := List.foldl_append

/-- **Few bits are absorbed all at once.** -/
theorem absorb_eq {bits : List Bool} (hfit : bits.length ≤ w) (r : BitVec w) :
    R.absorb r bits = R.shift^[bits.length] (r ^^^ word w bits) := by
  induction bits generalizing r with
  | nil => exact (BitVec.xor_zero).symm
  | cons b bits ih =>
    rw [List.length_cons] at hfit
    -- the top bit of the word is still free, so one shift takes its bits down by one
    have hdown : R.shift (word w bits <<< 1) = word w bits := by
      have hlow : (word w bits <<< 1).getLsbD 0 = false := by
        rw [BitVec.getLsbD_shiftLeft]
        simp
      rw [shift, hlow]
      apply BitVec.eq_of_getLsbD_eq
      intro i hi
      simp only [Bool.false_eq_true, if_false]
      rw [BitVec.getLsbD_ushiftRight, BitVec.getLsbD_shiftLeft, Nat.add_sub_cancel_left,
        decide_eq_false (show ¬ 1 + i < 1 by omega)]
      by_cases hi' : 1 + i < w
      · rw [decide_eq_true hi', Bool.not_false, Bool.true_and, Bool.true_and]
      · have hover : bits.length ≤ i := by omega
        rw [decide_eq_false hi', Bool.false_and, getLsbD_word, List.getD_eq_default _ _ hover]
        exact (Bool.and_false _).symm
    show R.absorb (R.feed r b) bits = _
    rw [ih (by omega), List.length_cons, Function.iterate_succ_apply, word, feed,
      BitVec.xor_comm (word w bits <<< 1), ← BitVec.xor_assoc, R.shift_xor _ (word w bits <<< 1), hdown]

/-- A message behind a register does not make two registers equal. -/
theorem absorb_injective (bits : List Bool) : Function.Injective (R.absorb · bits) := by
  induction bits with
  | nil => exact fun _ _ h => h
  | cons b bits ih =>
    intro r s h
    have hfeed : R.feed r b = R.feed s b := ih h
    exact (BitVec.xor_left_inj (lowBit w b)).mp (R.shift_injective hfeed)

/-- **Residue.**  A register that absorbs its own complement ends in a constant. -/
theorem absorb_complement {r : BitVec w} {bits : List Bool} (hlen : bits.length = w)
    (h : word w bits = ~~~r) : R.absorb r bits = R.shift^[w] (BitVec.allOnes w) := by
  rw [R.absorb_eq (Nat.le_of_eq hlen), h, hlen, ← BitVec.not_xor_right, BitVec.xor_self, BitVec.not_zero]

/-- Messages that differ only within a window agree in front of it and behind it. -/
theorem agree_outside {a b : List Bool} {i : Nat} (hwindow : ∀ k, a[k]? ≠ b[k]? → i ≤ k ∧ k < i + w) :
    a.take i = b.take i ∧ a.drop (i + w) = b.drop (i + w) := by
  constructor
  · apply List.ext_getElem?
    intro k
    rw [List.getElem?_take, List.getElem?_take]
    split
    · by_contra hk
      have := hwindow k hk
      omega
    · rfl
  · apply List.ext_getElem?
    intro k
    rw [List.getElem?_drop, List.getElem?_drop]
    by_contra hk
    have := hwindow (i + w + k) hk
    omega

/-- **Bursts.**  Two messages of one length that differ, and only within `w` bits in a row, leave
    different registers. -/
theorem absorb_ne_of_burst {a b : List Bool} (hlen : a.length = b.length) (hne : a ≠ b) {i : Nat}
    (hwindow : ∀ k, a[k]? ≠ b[k]? → i ≤ k ∧ k < i + w) (r : BitVec w) :
    R.absorb r a ≠ R.absorb r b := by
  obtain ⟨hfront, hback⟩ := agree_outside hwindow
  have hcut : ∀ c : List Bool, c = c.take i ++ ((c.drop i).take w ++ c.drop (i + w)) := by
    intro c
    rw [← List.drop_drop, List.take_append_drop, List.take_append_drop]
  -- all that differs is in the window
  have hburst : (a.drop i).take w ≠ (b.drop i).take w := by
    intro h
    apply hne
    rw [hcut a, hcut b, hfront, h, hback]
  have hlen' : ((a.drop i).take w).length = ((b.drop i).take w).length := by
    simp only [List.length_take, List.length_drop, hlen]
  have hfit : ((a.drop i).take w).length ≤ w := by
    rw [List.length_take]
    exact Nat.min_le_left _ _
  intro h
  rw [hcut a, hcut b, hfront, hback] at h
  simp only [absorb_append] at h
  -- what is behind the window keeps the registers apart, and so do the shifts within it
  have hwords := R.absorb_injective _ h
  rw [R.absorb_eq hfit, R.absorb_eq (Nat.le_trans (Nat.le_of_eq hlen'.symm) hfit), ← hlen'] at hwords
  have hword := (BitVec.xor_right_inj _).mp (R.shift_injective.iterate _ hwords)
  exact hburst (word_injective hlen' hfit hword)

end ShiftRegister
