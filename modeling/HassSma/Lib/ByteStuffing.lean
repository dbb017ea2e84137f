/-
  Byte stuffing, over any alphabet.

  A `Stuffing α` names an escape symbol, the set of symbols that must not appear on the wire, and
  the mask applied to such a symbol behind the escape.  Its fields carry the three laws a stuffing
  needs, so a stuffing that could lose data cannot be built: the escape is itself special, the mask
  is an involution, and a masked special symbol is not special any more.

  `encode` puts the escape and the masked symbol for each special one; `decode` undoes it and
  answers `none` when the input ends in an escape with nothing behind it.  From the laws:
  `decode (encode d) = some d` (`decode_encode`), no special symbol but the escape appears in
  `encode d` (`mem_encode`), and both respect concatenation.

  Read from the left, a string is a row of units, each a plain symbol or an escape with the symbol
  behind it; what can be decoded is exactly a row of whole units (`decode_eq_none_iff`).
-/
import Mathlib.Data.List.Basic

/-- An escape symbol, the symbols to be escaped, and the mask applied to them. -/
structure Stuffing (α : Type) [DecidableEq α] where
  esc : α
  special : α → Bool
  mask : α → α
  special_esc : special esc = true
  mask_mask : ∀ b, mask (mask b) = b
  mask_not_special : ∀ b, special b = true → special (mask b) = false

namespace Stuffing

variable {α : Type} [DecidableEq α] (S : Stuffing α)

/-- The stuffed form of `d`. -/
def encode : List α → List α
  | [] => []
  | b :: bs => if S.special b then S.esc :: S.mask b :: encode bs else b :: encode bs

/-- The plain form of `d`; `none` when an escape is the last symbol. -/
def decode : List α → Option (List α)
  | [] => some []
  | [b] => if b = S.esc then none else some [b]
  | b :: c :: cs =>
    if b = S.esc then (decode cs).map (S.mask c :: ·) else (decode (c :: cs)).map (b :: ·)

/-- A plain symbol in front stays in front. -/
theorem decode_cons_plain {b : α} (hb : b ≠ S.esc) (cs : List α) :
    S.decode (b :: cs) = (S.decode cs).map (b :: ·) := by
  cases cs with
  | nil => simp [decode, hb]
  | cons c cs => rw [decode, if_neg hb]

theorem encode_append (a b : List α) : S.encode (a ++ b) = S.encode a ++ S.encode b := by
  induction a with
  | nil => rfl
  | cons x xs ih =>
    rw [List.cons_append, encode, encode, ih]
    split <;> simp

/-- A string without special symbols is its own stuffed form. -/
theorem encode_of_plain {d : List α} (h : ∀ b ∈ d, S.special b = false) : S.encode d = d := by
  induction d with
  | nil => rfl
  | cons b bs ih =>
    rw [encode, h b List.mem_cons_self, ih fun c hc => h c (List.mem_cons_of_mem b hc)]
    rfl

/-- Decoding a stuffed string followed by anything gives the string back, then the rest. -/
theorem decode_encode_append (d s : List α) :
    S.decode (S.encode d ++ s) = (S.decode s).map (d ++ ·) := by
  induction d with
  | nil => simp [encode]
  | cons b bs ih =>
    rw [encode]
    split
    · rw [List.cons_append, List.cons_append, decode, if_pos rfl, ih, S.mask_mask]
      simp [Function.comp_def]
    · rename_i hplain
      have hb : b ≠ S.esc := fun he => hplain (he ▸ S.special_esc)
      rw [List.cons_append, S.decode_cons_plain hb, ih]
      simp [Function.comp_def]

/-- **Stuffing is lossless.** -/
theorem decode_encode (d : List α) : S.decode (S.encode d) = some d := by
  have h := S.decode_encode_append d []
  rw [List.append_nil, decode, Option.map_some, List.append_nil] at h
  exact h

/-- **Stuffing is clean**: the escape is the only special symbol of a stuffed string. -/
theorem mem_encode {d : List α} {x : α} (hx : x ∈ S.encode d) (hs : S.special x = true) :
    x = S.esc := by
  induction d with
  | nil => nomatch hx
  | cons b bs ih =>
    rw [encode] at hx
    split at hx
    · rename_i hb
      rcases List.mem_cons.mp hx with rfl | hx
      · rfl
      · rcases List.mem_cons.mp hx with rfl | hx
        · rw [S.mask_not_special b hb] at hs; nomatch hs
        · exact ih hx
    · rename_i hb
      rcases List.mem_cons.mp hx with rfl | hx
      · exact absurd hs hb
      · exact ih hx

/-- Stuffing adds one symbol for each special one. -/
theorem length_encode (d : List α) : (S.encode d).length = d.length + d.countP S.special := by
  induction d with
  | nil => rfl
  | cons b bs ih =>
    rw [encode]
    split
    · rename_i hb
      rw [List.countP_cons_of_pos hb, List.length_cons, List.length_cons, List.length_cons, ih]
      omega
    · rename_i hb
      rw [List.countP_cons_of_neg hb, List.length_cons, List.length_cons, ih]
      omega

/-- A stuffed string is at most twice as long as the plain one. -/
theorem length_encode_le (d : List α) : (S.encode d).length ≤ 2 * d.length := by
  have hspecial : d.countP S.special ≤ d.length := List.countP_le_length
  have hlen := S.length_encode d
  omega

/-! ## What can be decoded -/

/-- A row of whole units: plain symbols, and escapes with the symbol behind them. -/
inductive Units : List α → Prop
  | nil : Units []
  | plain {b : α} {s : List α} (hb : b ≠ S.esc) (hs : Units s) : Units (b :: s)
  | pair {c : α} {s : List α} (hs : Units s) : Units (S.esc :: c :: s)

/-- Read from the left, the last symbol is an escape with nothing behind it: it is not itself the
    second symbol of a pair. -/
def Dangling (s : List α) : Prop := ∃ t, S.Units t ∧ s = t ++ [S.esc]

variable {S} in
/-- Whole units in front change nothing about what is behind them. -/
theorem Units.decode_append {t : List α} (ht : S.Units t) (s : List α) :
    S.decode (t ++ s) = none ↔ S.decode s = none := by
  induction ht with
  | nil => rfl
  | plain hb _ ih => rw [List.cons_append, S.decode_cons_plain hb, Option.map_eq_none_iff, ih]
  | pair _ ih =>
    rw [List.cons_append, List.cons_append, decode, if_pos rfl, Option.map_eq_none_iff, ih]

/-- A string is a row of whole units, with one escape too many if it cannot be decoded. -/
theorem units_or_dangling (s : List α) :
    (S.decode s ≠ none ∧ S.Units s) ∨ (S.decode s = none ∧ S.Dangling s) := by
  fun_induction S.decode s with
  | case1 => exact .inl ⟨nofun, .nil⟩
  | case2 => exact .inr ⟨rfl, [], .nil, rfl⟩
  | case3 b hb => exact .inl ⟨nofun, .plain hb .nil⟩
  | case4 c cs ih =>
    rw [Ne, Option.map_eq_none_iff]
    rcases ih with ⟨hsome, hunits⟩ | ⟨hnone, t, ht, rfl⟩
    · exact .inl ⟨hsome, .pair hunits⟩
    · exact .inr ⟨hnone, S.esc :: c :: t, .pair ht, rfl⟩
  | case5 b c cs hb ih =>
    rw [Ne, Option.map_eq_none_iff]
    rcases ih with ⟨hsome, hunits⟩ | ⟨hnone, t, ht, heq⟩
    · exact .inl ⟨hsome, .plain hb hunits⟩
    · exact .inr ⟨hnone, b :: t, .plain hb ht, by rw [heq, List.cons_append]⟩

/-- **Decoding fails exactly on a dangling escape.** -/
theorem decode_eq_none_iff (s : List α) : S.decode s = none ↔ S.Dangling s := by
  constructor
  · intro hnone
    rcases S.units_or_dangling s with ⟨hsome, -⟩ | ⟨-, hdangling⟩
    · exact absurd hnone hsome
    · exact hdangling
  · rintro ⟨t, ht, rfl⟩
    rw [ht.decode_append, decode, if_pos rfl]

/-- A stuffed string ends in no escape of its own. -/
theorem not_dangling_encode (d : List α) : ¬ S.Dangling (S.encode d) := by
  rw [← decode_eq_none_iff, decode_encode]
  exact nofun

end Stuffing
