/-
  Unsigned numbers read from text, in any radix and up to any maximum.

  `fromStrRadix` is the reader that Rust's unsigned integer types have: an optional plus sign, then at
  least one digit, each put behind the number so far, with a check for overflow at every step.  What it
  reads is a numeral of a number up to the maximum, and all of these are read
  (`fromStrRadix_eq_some_iff`): leading zeros make no difference, and the sign none either.
-/
import Mathlib.Data.List.Basic

namespace Radix

variable (radix max : Nat)

/-! ## Digits -/

/-- The value of a digit in the largest radix there is. -/
def charValue (c : Char) : Option Nat :=
  if '0' ≤ c ∧ c ≤ '9' then some (c.toNat - '0'.toNat)
  else if 'a' ≤ c ∧ c ≤ 'z' then some (c.toNat - 'a'.toNat + 10)
  else if 'A' ≤ c ∧ c ≤ 'Z' then some (c.toNat - 'A'.toNat + 10)
  else none

/-- The value of a digit, if it is one of this radix. -/
def toDigit (c : Char) : Option Nat := (charValue c).filter (· < radix)

/-- The number that some digits stand for, behind those that stand for `n`. -/
def value (n : Nat) : List Char → Nat
  | [] => n
  | c :: digits => value (n * radix + (toDigit radix c).getD 0) digits

/-! ## The reader -/

/-- The loop over the digits: `checked_mul`, the digit, `checked_add`. -/
def readDigits (n : Nat) : List Char → Option Nat
  | [] => some n
  | c :: digits =>
    if max < n * radix then none
    else
      match toDigit radix c with
      | none => none
      | some x => if max < n * radix + x then none else readDigits (n * radix + x) digits

def fromStrRadix : List Char → Option Nat
  | [] => none
  | ['+'] => none
  | ['-'] => none
  | '+' :: digits => readDigits radix max 0 digits
  | src => readDigits radix max 0 src

/-! ## What it reads -/

/-- A numeral of `m`: a plus sign or none, and at least one digit. -/
def Numeral (src : List Char) (m : Nat) : Prop :=
  ∃ digits, (src = digits ∨ src = '+' :: digits) ∧ digits ≠ [] ∧
    (∀ c ∈ digits, toDigit radix c ≠ none) ∧ value radix 0 digits = m

/-- A sign is not a digit. -/
theorem toDigit_sign {c : Char} (hc : c = '+' ∨ c = '-') : toDigit radix c = none := by
  rcases hc with rfl | rfl <;> rfl

theorem le_value (hradix : 0 < radix) (n : Nat) (digits : List Char) : n ≤ value radix n digits := by
  induction digits generalizing n with
  | nil => exact Nat.le_refl n
  | cons c digits ih =>
    have hstep := ih (n * radix + (toDigit radix c).getD 0)
    have hmul : n ≤ n * radix := Nat.le_mul_of_pos_right n hradix
    rw [value]
    omega

/-- **The loop** reads digits, and their number if it is not above the maximum. -/
theorem readDigits_eq_some_iff (hradix : 0 < radix) {n : Nat} (hn : n ≤ max) (digits : List Char)
    (m : Nat) :
    readDigits radix max n digits = some m ↔
      (∀ c ∈ digits, toDigit radix c ≠ none) ∧ value radix n digits = m ∧ m ≤ max := by
  induction digits generalizing n with
  | nil =>
    rw [readDigits, value, Option.some.injEq]
    constructor
    · rintro rfl
      exact ⟨nofun, rfl, hn⟩
    · rintro ⟨-, rfl, -⟩
      rfl
  | cons c digits ih =>
    rw [readDigits, value, List.forall_mem_cons]
    cases hdigit : toDigit radix c with
    | none =>
      constructor
      · intro h
        split at h <;> nomatch h
      · rintro ⟨⟨hc, -⟩, -⟩
        exact absurd rfl hc
    | some x =>
      -- more digits never make the number smaller, so no overflow is made good later
      have hgrow := le_value radix hradix (n * radix + x) digits
      simp only [Option.getD_some]
      by_cases hmul : max < n * radix
      · rw [if_pos hmul]
        refine iff_of_false nofun ?_
        rintro ⟨-, hval, hle⟩
        omega
      · rw [if_neg hmul]
        by_cases hadd : max < n * radix + x
        · rw [if_pos hadd]
          refine iff_of_false nofun ?_
          rintro ⟨-, hval, hle⟩
          omega
        · rw [if_neg hadd, ih (by omega)]
          simp

/-- **What is read**: the numerals of the numbers up to the maximum. -/
theorem fromStrRadix_eq_some_iff (hradix : 0 < radix) (src : List Char) (m : Nat) :
    fromStrRadix radix max src = some m ↔ Numeral radix src m ∧ m ≤ max := by
  have hread := fun digits => readDigits_eq_some_iff radix max hradix (Nat.zero_le max) digits m
  have hplus := toDigit_sign radix (.inl rfl : '+' = '+' ∨ _)
  have hminus := toDigit_sign radix (.inr rfl : '-' = '+' ∨ _)
  unfold fromStrRadix
  split
  · refine iff_of_false nofun ?_
    rintro ⟨⟨digits, rfl | h, hne, -⟩, -⟩
    · exact hne rfl
    · nomatch h
  · refine iff_of_false nofun ?_
    rintro ⟨⟨digits, rfl | h, hne, hdigits, -⟩, -⟩
    · exact hdigits '+' List.mem_cons_self hplus
    · exact hne (List.cons.inj h).2.symm
  · refine iff_of_false nofun ?_
    rintro ⟨⟨digits, rfl | h, hne, hdigits, -⟩, -⟩
    · exact hdigits '-' List.mem_cons_self hminus
    · nomatch h
  · rename_i digits hone
    rw [hread]
    constructor
    · rintro ⟨hdigits, hval, hle⟩
      exact ⟨⟨digits, .inr rfl, fun hnil => hone hnil, hdigits, hval⟩, hle⟩
    · rintro ⟨⟨digits', rfl | h, -, hdigits, hval⟩, hle⟩
      · exact absurd hplus (hdigits '+' List.mem_cons_self)
      · obtain rfl := (List.cons.inj h).2
        exact ⟨hdigits, hval, hle⟩
  · rename_i hnil _ _ hsign
    rw [hread]
    constructor
    · rintro ⟨hdigits, hval, hle⟩
      exact ⟨⟨src, .inl rfl, hnil, hdigits, hval⟩, hle⟩
    · rintro ⟨⟨digits, rfl | rfl, -, hdigits, hval⟩, hle⟩
      · exact ⟨hdigits, hval, hle⟩
      · exact absurd rfl (hsign digits)

end Radix
