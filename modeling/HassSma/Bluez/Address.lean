/-
  BT addresses as text (`bluez-transport/src/rfcomm.rs`).

  An address is written as six pairs of hexadecimal digits, high byte first, and BlueZ wants the low byte
  first.  `parse_bt_mac` splits at the colons, asks for six parts, and leaves each part to
  `u8::from_str_radix`.  That reads back what `format_bt_mac` writes, but it also reads a single digit, a
  number with leading zeros and one with a plus sign.  Nothing looks at how long a part is, so that an
  address with a digit missing is read as another address.

  What is read is known exactly (`parseBtMac_isSome_iff`), and so is when that is what the pattern
  `AA:BB:CC:DD:EE:FF` says (`parseBtMac_exact_iff`).
-/
import HassSma.Lib.Radix
import HassSma.Protocol.Frame
import Mathlib.Data.List.Forall2

namespace HassSma

open Bytes

/-! ## The program -/

/-- `{:02X}` -/
def hex02 (b : UInt8) : String :=
  String.ofList ([b.toNat / 16, b.toNat % 16].map fun n => (Nat.digitChar n).toUpper)

/-- `u8::from_str_radix(p, 16)` -/
def u8FromStrRadix16 (p : List Char) : Option UInt8 := (Radix.fromStrRadix 16 255 p).map UInt8.ofNat

/-- `out[i] = b` -/
def BtAddr.set (out : BtAddr) (i : Nat) (b : UInt8) : BtAddr :=
  ⟨out.bytes.set i b, by rw [List.length_set, out.length_eq]⟩

/-- The loop over the parts from the `i`-th on. -/
def fillParts (i : Nat) : List (List Char) → BtAddr → Option BtAddr
  | [], out => some out
  | p :: parts, out =>
    match u8FromStrRadix16 p with
    | none => none
    | some b => fillParts (i + 1) parts (out.set (5 - i) b)

def parseBtMac (s : String) : Option BtAddr :=
  let parts := s.toList.splitOn ':'
  if parts.length ≠ 6 then none else fillParts 0 parts (.fill 0)

def formatBtMac (addr : BtAddr) : String :=
  hex02 (byteAt addr.bytes 5) ++ ":" ++ hex02 (byteAt addr.bytes 4) ++ ":" ++
    hex02 (byteAt addr.bytes 3) ++ ":" ++ hex02 (byteAt addr.bytes 2) ++ ":" ++
    hex02 (byteAt addr.bytes 1) ++ ":" ++ hex02 (byteAt addr.bytes 0)

/-! ## The pattern -/

def hexDigits : List Char := "0123456789abcdefABCDEF".toList

/-- Two hexadecimal digits. -/
def TwoDigits (g : List Char) : Prop := ∃ hi lo, g = [hi, lo] ∧ hi ∈ hexDigits ∧ lo ∈ hexDigits

/-- Six groups of two hexadecimal digits, with colons between them. -/
def MacText (s : String) : Prop :=
  ∃ groups : List (List Char), groups.length = 6 ∧ (∀ g ∈ groups, TwoDigits g) ∧
    s.toList = [':'].intercalate groups

/-- Six groups that `from_str_radix` reads, of which one is not two digits: it has a sign, or one digit
    only, or leading zeros. -/
def LooseMac (s : String) : Prop :=
  (s.toList.splitOn ':').length = 6 ∧
    (∀ g ∈ s.toList.splitOn ':', ∃ m ≤ 255, Radix.Numeral 16 g m) ∧
    ∃ g ∈ s.toList.splitOn ':', ¬ TwoDigits g

/-! ## One byte -/

theorem u8FromStrRadix16_eq_some_iff (g : List Char) (b : UInt8) :
    u8FromStrRadix16 g = some b ↔ Radix.Numeral 16 g b.toNat := by
  have hb := b.toNat_lt
  rw [u8FromStrRadix16, Option.map_eq_some_iff]
  constructor
  · rintro ⟨m, hm, rfl⟩
    obtain ⟨hnumeral, hle⟩ := (Radix.fromStrRadix_eq_some_iff 16 255 (by decide) g m).mp hm
    rwa [UInt8.toNat_ofNat_of_lt' (by show m < 256; omega)]
  · intro h
    refine ⟨b.toNat, ?_, UInt8.ofNat_toNat⟩
    exact (Radix.fromStrRadix_eq_some_iff 16 255 (by decide) g b.toNat).mpr ⟨h, by omega⟩

theorem u8FromStrRadix16_isSome_iff (g : List Char) :
    (∃ b, u8FromStrRadix16 g = some b) ↔ ∃ m ≤ 255, Radix.Numeral 16 g m := by
  constructor
  · rintro ⟨b, hb⟩
    have hlt := b.toNat_lt
    exact ⟨b.toNat, by omega, (u8FromStrRadix16_eq_some_iff g b).mp hb⟩
  · rintro ⟨m, hm, hnumeral⟩
    refine ⟨UInt8.ofNat m, (u8FromStrRadix16_eq_some_iff g _).mpr ?_⟩
    rwa [UInt8.toNat_ofNat_of_lt' (by show m < 256; omega)]

/-- A digit stands for its value, and is written as the value's digit. -/
theorem hexDigits_value :
    ∀ c ∈ hexDigits, ∃ x < 16, Radix.toDigit 16 c = some x ∧ (Nat.digitChar x).toUpper = c.toUpper := by
  have hall : hexDigits.all fun c => (Radix.toDigit 16 c).any fun x =>
      decide (x < 16 ∧ (Nat.digitChar x).toUpper = c.toUpper) := by decide +kernel
  intro c hc
  obtain ⟨x, hx, hvalue⟩ := (Option.any_eq_true _ _).mp (List.all_eq_true.mp hall c hc)
  obtain ⟨hlt, hchar⟩ := of_decide_eq_true hvalue
  exact ⟨x, hlt, hx, hchar⟩

theorem digitChar_mem_hexDigits : ∀ x < 16, (Nat.digitChar x).toUpper ∈ hexDigits := by decide

theorem colon_not_mem_hexDigits : ':' ∉ hexDigits := by decide

theorem TwoDigits.colon_not_mem {g : List Char} (h : TwoDigits g) : ':' ∉ g := by
  obtain ⟨hi, lo, rfl, hhi, hlo⟩ := h
  intro hmem
  rcases List.mem_cons.mp hmem with rfl | hmem
  · exact colon_not_mem_hexDigits hhi
  · obtain rfl := List.mem_singleton.mp hmem
    exact colon_not_mem_hexDigits hlo

/-- Two digits are read as a byte, which is written as they are, in upper case. -/
theorem TwoDigits.read {g : List Char} (h : TwoDigits g) :
    ∃ b, u8FromStrRadix16 g = some b ∧ (hex02 b).toList = g.map Char.toUpper := by
  obtain ⟨hi, lo, rfl, hhi, hlo⟩ := h
  obtain ⟨x, hx, hxdigit, hxchar⟩ := hexDigits_value hi hhi
  obtain ⟨y, hy, hydigit, hychar⟩ := hexDigits_value lo hlo
  have hnat : (UInt8.ofNat (16 * x + y)).toNat = 16 * x + y :=
    UInt8.toNat_ofNat_of_lt' (by show 16 * x + y < 256; omega)
  refine ⟨UInt8.ofNat (16 * x + y), (u8FromStrRadix16_eq_some_iff _ _).mpr ?_, ?_⟩
  · refine ⟨[hi, lo], .inl rfl, List.cons_ne_nil _ _, ?_, ?_⟩
    · rw [List.forall_mem_cons, List.forall_mem_singleton, hxdigit, hydigit]
      exact ⟨nofun, nofun⟩
    · rw [hnat, Radix.value, Radix.value, Radix.value, hxdigit, hydigit]
      simp only [Option.getD_some]
      omega
  · have hdiv : (16 * x + y) / 16 = x := by omega
    have hmod : (16 * x + y) % 16 = y := by omega
    rw [hex02, hnat, hdiv, hmod, String.toList_ofList]
    simp only [List.map_cons, List.map_nil, hxchar, hychar]

/-- A byte is written with two digits. -/
theorem twoDigits_hex02 (b : UInt8) : TwoDigits (hex02 b).toList := by
  have hb := b.toNat_lt
  refine ⟨_, _, String.toList_ofList, ?_, ?_⟩
  · exact digitChar_mem_hexDigits (b.toNat / 16) (by omega)
  · exact digitChar_mem_hexDigits (b.toNat % 16) (by omega)

/-- What is written is read back. -/
theorem u8FromStrRadix16_hex02 (b : UInt8) : u8FromStrRadix16 (hex02 b).toList = some b := by
  have hvalue : ∀ x < 16, Radix.toDigit 16 (Nat.digitChar x).toUpper = some x := by decide
  have hb := b.toNat_lt
  refine (u8FromStrRadix16_eq_some_iff _ b).mpr ⟨_, .inl rfl, ?_, ?_, ?_⟩
  all_goals rw [hex02, String.toList_ofList]
  · exact List.cons_ne_nil _ _
  · simp only [List.map_cons, List.map_nil]
    rw [List.forall_mem_cons, List.forall_mem_singleton, hvalue _ (by omega), hvalue _ (by omega)]
    exact ⟨nofun, nofun⟩
  · simp only [List.map_cons, List.map_nil]
    rw [Radix.value, Radix.value, Radix.value, hvalue _ (by omega), hvalue _ (by omega)]
    simp only [Option.getD_some]
    omega

/-! ## Six groups -/

/-- Each group is read as the byte at its place. -/
def ReadAs (groups : List (List Char)) (bytes : List UInt8) : Prop :=
  List.Forall₂ (fun g b => u8FromStrRadix16 g = some b) groups bytes

/-- What stands from the place on that was set. -/
theorem BtAddr.drop_set (out : BtAddr) {n : Nat} (hn : n < 6) (b : UInt8) :
    (out.set n b).bytes.drop n = b :: out.bytes.drop (n + 1) := by
  have hroom : n < (out.bytes.set n b).length := by rwa [List.length_set, out.length_eq]
  show (out.bytes.set n b).drop n = _
  rw [List.drop_eq_getElem_cons hroom, List.getElem_set_self, List.drop_set_of_lt (by omega)]

/-- The loop puts what it reads into the address from the high end down. -/
theorem fillParts_eq_some_iff (groups : List (List Char)) {i : Nat} (hi : i + groups.length = 6)
    (out addr : BtAddr) :
    fillParts i groups out = some addr ↔
      ∃ bytes, ReadAs groups bytes ∧ addr.bytes = bytes.reverse ++ out.bytes.drop groups.length := by
  induction groups generalizing i out with
  | nil =>
    rw [fillParts, Option.some.injEq]
    constructor
    · rintro rfl
      exact ⟨[], .nil, rfl⟩
    · rintro ⟨bytes, hread, hbytes⟩
      cases hread
      have hsame : out.bytes = addr.bytes := hbytes.symm
      cases out
      cases addr
      cases hsame
      rfl
  | cons g groups ih =>
    rw [List.length_cons] at hi
    have hplace : 5 - i = groups.length := by omega
    rw [fillParts, hplace]
    cases hg : u8FromStrRadix16 g with
    | none =>
      refine iff_of_false nofun ?_
      rintro ⟨bytes, hread, -⟩
      cases hread with
      | cons hb _ =>
        rw [hg] at hb
        nomatch hb
    | some b =>
      show fillParts (i + 1) groups (out.set groups.length b) = some addr ↔ _
      rw [ih (by omega), out.drop_set (by omega) b, List.length_cons]
      constructor
      · rintro ⟨bytes, hread, hbytes⟩
        refine ⟨b :: bytes, .cons hg hread, ?_⟩
        rw [hbytes, List.reverse_cons, List.append_assoc]
        rfl
      · rintro ⟨bytes, hread, hbytes⟩
        cases hread with
        | cons hb hrest =>
          obtain rfl := Option.some.inj (hg.symm.trans hb)
          refine ⟨_, hrest, ?_⟩
          rw [hbytes, List.reverse_cons, List.append_assoc]
          rfl

/-- **What is read**: six groups, and each one the byte at its place, high byte first. -/
theorem parseBtMac_eq_some_iff (s : String) (addr : BtAddr) :
    parseBtMac s = some addr ↔
      (s.toList.splitOn ':').length = 6 ∧ ReadAs (s.toList.splitOn ':') addr.bytes.reverse := by
  show (if (s.toList.splitOn ':').length ≠ 6 then none
    else fillParts 0 (s.toList.splitOn ':') (.fill 0)) = some addr ↔ _
  by_cases hlen : (s.toList.splitOn ':').length = 6
  · rw [if_neg (not_not_intro hlen), fillParts_eq_some_iff _ (by omega), hlen]
    have hdrop : (BtAddr.fill 0).bytes.drop 6 = [] := rfl
    rw [hdrop]
    constructor
    · rintro ⟨bytes, hread, hbytes⟩
      rw [hbytes, List.append_nil, List.reverse_reverse]
      exact ⟨rfl, hread⟩
    · rintro ⟨-, hread⟩
      exact ⟨_, hread, by rw [List.reverse_reverse, List.append_nil]⟩
  · rw [if_pos hlen]
    exact iff_of_false nofun fun h => hlen h.1

/-- A text is read exactly if it has six groups that `from_str_radix` reads. -/
theorem parseBtMac_isSome_iff (s : String) :
    (∃ addr, parseBtMac s = some addr) ↔
      (s.toList.splitOn ':').length = 6 ∧
        ∀ g ∈ s.toList.splitOn ':', ∃ m ≤ 255, Radix.Numeral 16 g m := by
  have hread : ∀ groups, (∃ bytes, ReadAs groups bytes) ↔
      ∀ g ∈ groups, ∃ m ≤ 255, Radix.Numeral 16 g m := by
    intro groups
    induction groups with
    | nil => exact iff_of_true ⟨[], .nil⟩ nofun
    | cons g groups ih =>
      rw [List.forall_mem_cons, ← ih, ← u8FromStrRadix16_isSome_iff]
      constructor
      · rintro ⟨bytes, hbytes⟩
        cases hbytes with
        | cons hb hrest => exact ⟨⟨_, hb⟩, _, hrest⟩
      · rintro ⟨⟨b, hb⟩, bytes, hrest⟩
        exact ⟨b :: bytes, .cons hb hrest⟩
  simp only [parseBtMac_eq_some_iff, exists_and_left]
  refine and_congr_right fun hlen => ?_
  rw [← hread]
  constructor
  · rintro ⟨addr, haddr⟩
    exact ⟨_, haddr⟩
  · rintro ⟨bytes, hbytes⟩
    have hsix : bytes.reverse.length = 6 := by
      rw [List.length_reverse, ← hbytes.length_eq, hlen]
    refine ⟨⟨bytes.reverse, hsix⟩, ?_⟩
    show ReadAs _ bytes.reverse.reverse
    rwa [List.reverse_reverse]

/-- The groups of a text that follows the pattern are its parts. -/
theorem macText_iff (s : String) :
    MacText s ↔ (s.toList.splitOn ':').length = 6 ∧ ∀ g ∈ s.toList.splitOn ':', TwoDigits g := by
  constructor
  · rintro ⟨groups, hlen, hdigits, hs⟩
    have hne : groups ≠ [] := List.ne_nil_of_length_pos (by omega)
    rw [hs, List.splitOn_intercalate ':' (fun g hg => (hdigits g hg).colon_not_mem) hne]
    exact ⟨hlen, hdigits⟩
  · rintro ⟨hlen, hdigits⟩
    exact ⟨_, hlen, hdigits, (List.intercalate_splitOn ':').symm⟩

/-- What is written, as six groups. -/
theorem toList_formatBtMac (addr : BtAddr) :
    (formatBtMac addr).toList
      = [':'].intercalate (addr.bytes.reverse.map fun b => (hex02 b).toList) := by
  obtain ⟨bytes, hlen⟩ := addr
  match bytes, hlen with
  | [b0, b1, b2, b3, b4, b5], _ =>
    have hcolon : ":".toList = [':'] := by decide
    have hreverse : [b0, b1, b2, b3, b4, b5].reverse = [b5, b4, b3, b2, b1, b0] := rfl
    simp only [formatBtMac, byteAt, List.getD_cons_succ, List.getD_cons_zero, String.toList_append,
      List.append_assoc, hcolon, hreverse, List.map_cons, List.map_nil, List.intercalate_cons_cons,
      List.intercalate_singleton]

/-- Upper case goes group by group. -/
theorem map_toUpper_intercalate (groups : List (List Char)) :
    ([':'].intercalate groups).map Char.toUpper
      = [':'].intercalate (groups.map (List.map Char.toUpper)) := by
  induction groups with
  | nil => rfl
  | cons g groups ih =>
    cases groups with
    | nil => simp
    | cons g' groups =>
      rw [List.intercalate_cons_cons, List.map_append, List.map_append, ih]
      simp only [List.map_cons, List.intercalate_cons_cons]
      rfl

/-- Groups of two digits are written as they were read, in upper case. -/
theorem readAs_format {groups : List (List Char)} {bytes : List UInt8} (h : ReadAs groups bytes)
    (hdigits : ∀ g ∈ groups, TwoDigits g) :
    bytes.map (fun b => (hex02 b).toList) = groups.map (List.map Char.toUpper) := by
  induction h with
  | nil => rfl
  | cons hb _ ih =>
    rw [List.forall_mem_cons] at hdigits
    obtain ⟨b', hb', hchars⟩ := hdigits.1.read
    obtain rfl := Option.some.inj (hb.symm.trans hb')
    rw [List.map_cons, List.map_cons, hchars, ih hdigits.2]

/-- An address that is written is read back. -/
theorem parseBtMac_formatBtMac (addr : BtAddr) : parseBtMac (formatBtMac addr) = some addr := by
  rw [parseBtMac_eq_some_iff, toList_formatBtMac]
  have hlen : addr.bytes.reverse.length = 6 := by rw [List.length_reverse, addr.length_eq]
  rw [List.splitOn_intercalate ':']
  · refine ⟨by rw [List.length_map, hlen], ?_⟩
    exact List.forall₂_map_left_iff.mpr (List.forall₂_same.mpr fun b _ => u8FromStrRadix16_hex02 b)
  · intro g hg
    obtain ⟨b, -, rfl⟩ := List.mem_map.mp hg
    exact (twoDigits_hex02 b).colon_not_mem
  · intro hnil
    rw [List.map_eq_nil_iff.mp hnil] at hlen
    nomatch hlen

/-- **An address is read exactly as its pattern says, unless the text is a loose one.**  A text is read if
    and only if it is six groups of two hexadecimal digits, then written as it was but in upper case, and
    every address that is written is read back: so it is for a text exactly if it is not one of those that
    `from_str_radix` lets pass on top, six groups that it reads, of which one is not two digits. -/
theorem parseBtMac_exact_iff (s : String) :
    ((∃ addr, parseBtMac s = some addr) ↔ MacText s) ∧
        (∀ addr, parseBtMac s = some addr → formatBtMac addr = s.toUpper) ∧
        (∀ addr, parseBtMac (formatBtMac addr) = some addr) ↔
      ¬ LooseMac s := by
  constructor
  · rintro ⟨hgrammar, -, -⟩ ⟨hlen, hread, g, hg, hloose⟩
    -- a loose text is read, so that it would have to follow the pattern
    have hmac := hgrammar.mp ((parseBtMac_isSome_iff s).mpr ⟨hlen, hread⟩)
    exact hloose (((macText_iff s).mp hmac).2 g hg)
  · intro hexact
    have htwo : ∀ addr, parseBtMac s = some addr → MacText s := by
      intro addr haddr
      obtain ⟨hlen, hread⟩ := (parseBtMac_isSome_iff s).mp ⟨addr, haddr⟩
      refine (macText_iff s).mpr ⟨hlen, ?_⟩
      intro g hg
      by_contra hloose
      exact hexact ⟨hlen, hread, g, hg, hloose⟩
    refine ⟨⟨fun ⟨addr, haddr⟩ => htwo addr haddr, fun hmac => ?_⟩, ?_, parseBtMac_formatBtMac⟩
    · obtain ⟨hlen, hdigits⟩ := (macText_iff s).mp hmac
      refine (parseBtMac_isSome_iff s).mpr ⟨hlen, fun g hg => ?_⟩
      obtain ⟨b, hb, -⟩ := (hdigits g hg).read
      exact (u8FromStrRadix16_isSome_iff g).mp ⟨b, hb⟩
    · intro addr haddr
      obtain ⟨-, hdigits⟩ := (macText_iff s).mp (htwo addr haddr)
      obtain ⟨-, hread⟩ := (parseBtMac_eq_some_iff s addr).mp haddr
      apply String.toList_injective
      rw [toList_formatBtMac, readAs_format hread hdigits, ← map_toUpper_intercalate,
        List.intercalate_splitOn, String.toUpper, String.toList_map]

/-- A digit is missing, and another address is read. -/
theorem missing_digit_accepted :
    ¬ ∀ s, ((∃ addr, parseBtMac s = some addr) ↔ MacText s) ∧
        (∀ addr, parseBtMac s = some addr → formatBtMac addr = s.toUpper) ∧
        ∀ addr, parseBtMac (formatBtMac addr) = some addr := by
  intro h
  have hread : (parseBtMac "00:80:25:21:32:3").map formatBtMac = some "00:80:25:21:32:03" := by
    decide +kernel
  obtain ⟨addr, haddr, hformat⟩ := Option.map_eq_some_iff.mp hread
  have hupper := congrArg String.toList ((h "00:80:25:21:32:3").2.1 addr haddr)
  rw [hformat, String.toUpper, String.toList_map] at hupper
  exact absurd hupper (by decide)

end HassSma
