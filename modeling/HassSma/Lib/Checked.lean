/-
  Programs whose every access is checked.

  `Checked α` is the result of a program that may trap: an index or a range out of bounds, a
  subtraction below zero, a `None` that is unwrapped, an assertion that fails.  There is one operation for
  each of these, and for each operation a rule that says when it does not trap, and what it
  gives then.  To prove that a program never traps is to prove that it is `.ok` of something.

  A `while` loop is run with a bound on its iterations, and running out of them is a trap too.  The
  loop rule (`loop_eq`) asks for a variant and for the meaning of the loop, as a function of the
  state, which a step must not change.
-/
import HassSma.Lib.Bytes

inductive Trap where
  | index (i length : Nat)
  | range (lo hi length : Nat)
  | size (want got : Nat)
  | underflow (a b : Nat)
  | unwrapped
  | assertion
  | endless
  deriving DecidableEq, Repr

/-- The result of a program that may trap. -/
abbrev Checked (α : Type) := Except Trap α

namespace Checked

open Bytes

variable {α β σ : Type}

/-! ## Operations -/

/-- `d[i]` -/
def index (d : List UInt8) (i : Nat) : Checked UInt8 :=
  if i < d.length then .ok (byteAt d i) else .error (.index i d.length)

/-- `&d[lo..hi]` -/
def range (d : List UInt8) (lo hi : Nat) : Checked (List UInt8) :=
  if lo ≤ hi ∧ hi ≤ d.length then .ok (slice d lo hi) else .error (.range lo hi d.length)

/-- `&d[lo..]` -/
def rangeFrom (d : List UInt8) (lo : Nat) : Checked (List UInt8) :=
  if lo ≤ d.length then .ok (d.drop lo) else .error (.range lo d.length d.length)

/-- `&d[..hi]` -/
def rangeTo (d : List UInt8) (hi : Nat) : Checked (List UInt8) :=
  if hi ≤ d.length then .ok (d.take hi) else .error (.range 0 hi d.length)

/-- `a - b` -/
def sub (a b : Nat) : Checked Nat := if b ≤ a then .ok (a - b) else .error (.underflow a b)

def unwrap : Option α → Checked α
  | some a => .ok a
  | none => .error .unwrapped

def debugAssert (c : Prop) [Decidable c] : Checked Unit := if c then .ok () else .error .assertion

/-- A word at the front of `d`, of which there must be enough bytes. -/
def wordU16 (d : List UInt8) : Checked UInt16 :=
  if 2 ≤ d.length then .ok (readU16 d) else .error (.size 2 d.length)

def wordU32 (d : List UInt8) : Checked UInt32 :=
  if 4 ≤ d.length then .ok (readU32 d) else .error (.size 4 d.length)

def wordU64 (d : List UInt8) : Checked UInt64 :=
  if 8 ≤ d.length then .ok (readU64 d) else .error (.size 8 d.length)

/-- `LittleEndian::read_u16(&d[lo..hi])`, and so on. -/
def u16At (d : List UInt8) (lo hi : Nat) : Checked UInt16 := do wordU16 (← range d lo hi)
def u32At (d : List UInt8) (lo hi : Nat) : Checked UInt32 := do wordU32 (← range d lo hi)
def u64At (d : List UInt8) (lo hi : Nat) : Checked UInt64 := do wordU64 (← range d lo hi)

/-- A `while` loop, for a number of iterations at most: the body goes on or is through. -/
def loop (body : σ → Checked (σ ⊕ β)) : Nat → σ → Checked β
  | 0, _ => .error .endless
  | fuel + 1, s => do
    match ← body s with
    | .inl s' => loop body fuel s'
    | .inr b => .ok b

/-! ## When they do not trap -/

@[simp] theorem ok_bind (a : α) (f : α → Checked β) : (Except.ok a : Checked α) >>= f = f a := rfl

@[simp] theorem pure_eq (a : α) : (pure a : Checked α) = .ok a := rfl

variable {d : List UInt8} {i lo hi : Nat}

theorem index_ok (h : i < d.length) : index d i = .ok (byteAt d i) := if_pos h

theorem range_ok (h : lo ≤ hi) (h' : hi ≤ d.length) : range d lo hi = .ok (slice d lo hi) :=
  if_pos ⟨h, h'⟩

theorem rangeFrom_ok (h : lo ≤ d.length) : rangeFrom d lo = .ok (d.drop lo) := if_pos h

theorem rangeTo_ok (h : hi ≤ d.length) : rangeTo d hi = .ok (d.take hi) := if_pos h

theorem sub_ok {a b : Nat} (h : b ≤ a) : sub a b = .ok (a - b) := if_pos h

theorem debugAssert_ok {c : Prop} [Decidable c] (h : c) : debugAssert c = .ok () := if_pos h

theorem u16At_ok (h : lo + 2 ≤ hi) (h' : hi ≤ d.length) :
    u16At d lo hi = .ok (readU16 (slice d lo hi)) := by
  rw [u16At, range_ok (by omega) h']
  exact if_pos (by rw [length_slice]; omega)

theorem u32At_ok (h : lo + 4 ≤ hi) (h' : hi ≤ d.length) :
    u32At d lo hi = .ok (readU32 (slice d lo hi)) := by
  rw [u32At, range_ok (by omega) h']
  exact if_pos (by rw [length_slice]; omega)

theorem u64At_ok (h : lo + 8 ≤ hi) (h' : hi ≤ d.length) :
    u64At d lo hi = .ok (readU64 (slice d lo hi)) := by
  rw [u64At, range_ok (by omega) h']
  exact if_pos (by rw [length_slice]; omega)

/-- **The loop rule**: a step ends with what the loop means, or leaves the meaning as it is and
    brings the variant down. -/
theorem loop_eq {body : σ → Checked (σ ⊕ β)} (meaning : σ → β) (variant : σ → Nat)
    (hstep : ∀ s, body s = .ok (.inr (meaning s)) ∨
      ∃ s', body s = .ok (.inl s') ∧ meaning s = meaning s' ∧ variant s' < variant s)
    {fuel : Nat} {s : σ} (hfuel : variant s < fuel) : loop body fuel s = .ok (meaning s) := by
  induction fuel generalizing s with
  | zero => omega
  | succ fuel ih =>
    rw [loop]
    rcases hstep s with hdone | ⟨s', hnext, hmeaning, hvariant⟩
    · rw [hdone]
      rfl
    · rw [hnext, hmeaning]
      exact ih (by omega)

/-- A fold whose steps do not trap.  `Room n s` says that `s` has room for `n` more elements. -/
theorem foldlM_ok {ι : Type} {f : σ → ι → Checked σ} {g : σ → ι → σ} (Room : Nat → σ → Prop)
    (hstep : ∀ n s a, Room (n + 1) s → f s a = .ok (g s a) ∧ Room n (g s a)) (l : List ι) {s : σ}
    (hroom : Room l.length s) : l.foldlM f s = .ok (l.foldl g s) := by
  induction l generalizing s with
  | nil => rfl
  | cons a l ih =>
    obtain ⟨hok, hrest⟩ := hstep l.length s a hroom
    rw [List.foldlM_cons, hok, List.foldl_cons]
    exact ih hrest

end Checked
