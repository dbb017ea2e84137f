/-
  Layer-1 frames: byte stuffing, the parser and the builder (`sma-bt-protocol/src/frame.rs`).

  A frame is an 18-byte header (delimiter, little-endian length of the whole frame, header checksum,
  two BT addresses, control word) and a payload in one of two shapes:

  * L1-only: the payload bytes as they are, nothing behind them;
  * L2-wrapped: the payload starts with the L2 signature `FF 03 60 65`.  The builder puts a `0x7E`
    separator in front of it and the FCS-16 behind it, stuffs both, and ends with a `0x7E` trailer.
    The parser takes the signature with or without the separator, and a frame with or without
    the trailer (a push frame has none, and no FCS either).

  What is proved here: the parser's result on a frame whose header is sound (`parse_of_header`), the
  round trip `parse (build m) = ok m` for both shapes (`parse_wire`), and what the parser knows
  about the checksum in the trailer of a classic L2 frame, which is nothing: it strips the two
  bytes (`parse_l2WrappedWith`, `classicIntact_iff`).
-/
import HassSma.Lib.Bytes
import HassSma.Lib.ByteStuffing
import HassSma.Protocol.Fcs

namespace HassSma

open Bytes

/-! ## Constants -/

/-- Start/end delimiter of a frame. -/
def frameDelimiter : UInt8 := 0x7E

/-- Layer-2 signature; on the wire `FF 03 60 65`. -/
def btL2Signature : UInt32 := 0x656003FF

/-- The minimum frame: 18 header bytes. -/
def minFrameLen : Nat := 18

/-- Byte values that are stuffed inside an L2 payload. -/
def stuffBytes : List UInt8 := [0x7D, 0x7E, 0x11, 0x12, 0x13]
def stuffEscape : UInt8 := 0x7D
def stuffXor : UInt8 := 0x20

/-! ## Types -/

inductive ParseError where
  | tooShort (got need : Nat)
  | missingStart (byte : UInt8)
  | missingEnd (byte : UInt8)
  | lengthMismatch (declared : UInt16) (actual : Nat)
  | headerChecksum (got expected : UInt8)
  | truncatedEscape
  deriving DecidableEq, Repr

inductive FrameKind where
  | l1Only
  | l2Wrapped
  deriving DecidableEq, Repr

/-- A BT address in wire order: six bytes. -/
structure BtAddr where
  bytes : List UInt8
  length_eq : bytes.length = 6
  deriving DecidableEq, Repr

/-- An address of one repeated byte. -/
def BtAddr.fill (b : UInt8) : BtAddr := ⟨List.replicate 6 b, List.length_replicate⟩

/-- The six bytes of `raw` from position `i`. -/
def BtAddr.ofSlice (raw : List UInt8) (i : Nat) (h : i + 6 ≤ raw.length) : BtAddr :=
  ⟨slice raw i (i + 6), by simp only [length_slice]; omega⟩

/-- A parsed frame.  The payload of an L2-wrapped frame is un-stuffed and has no FCS. -/
structure Frame where
  kind : FrameKind
  localBt : BtAddr
  destBt : BtAddr
  control : UInt16
  payload : List UInt8
  deriving DecidableEq, Repr

/-! ## Byte stuffing -/

def stuff : List UInt8 → List UInt8
  | [] => []
  | b :: data =>
    if stuffBytes.contains b then stuffEscape :: (b ^^^ stuffXor) :: stuff data
    else b :: stuff data

def unstuff : List UInt8 → Except ParseError (List UInt8)
  | [] => .ok []
  | [b] => if b = stuffEscape then .error .truncatedEscape else .ok [b]
  | b :: n :: data =>
    if b = stuffEscape then (unstuff data).map ((n ^^^ stuffXor) :: ·)
    else (unstuff (n :: data)).map (b :: ·)

/-- The wire's stuffing as an instance of the general one. -/
def smaStuffing : Stuffing UInt8 where
  esc := stuffEscape
  special := stuffBytes.contains
  mask := (· ^^^ stuffXor)
  special_esc := by decide
  mask_mask b := by rw [UInt8.xor_assoc, UInt8.xor_self, UInt8.xor_zero]
  mask_not_special b hb := by
    have hmem : b ∈ stuffBytes := by simpa using hb
    simp only [stuffBytes, List.mem_cons, List.not_mem_nil, or_false] at hmem
    rcases hmem with rfl | rfl | rfl | rfl | rfl <;> decide

@[simp] theorem smaStuffing_esc : smaStuffing.esc = stuffEscape := rfl

theorem stuff_eq_encode (d : List UInt8) : stuff d = smaStuffing.encode d := by
  induction d with
  | nil => rfl
  | cons b d ih => rw [stuff, Stuffing.encode, ih]; rfl

/-- `unstuff` is the general decoder, with `TruncatedEscape` for its `none`. -/
theorem unstuff_eq_decode (d : List UInt8) :
    unstuff d = match smaStuffing.decode d with
      | some u => .ok u
      | none => .error .truncatedEscape := by
  fun_induction unstuff d with
  | case1 => rfl
  | case2 => rfl
  | case3 b hb => simp [Stuffing.decode, smaStuffing, hb]
  | case4 n d ih =>
    rw [Stuffing.decode, smaStuffing_esc, if_pos rfl, ih]
    cases smaStuffing.decode d <;> rfl
  | case5 b n d hb ih =>
    rw [Stuffing.decode, smaStuffing_esc, if_neg hb, ih]
    cases smaStuffing.decode (n :: d) <;> rfl

/-- **Un-stuffing undoes stuffing.** -/
theorem unstuff_stuff (d : List UInt8) : unstuff (stuff d) = .ok d := by
  rw [unstuff_eq_decode, stuff_eq_encode, Stuffing.decode_encode]

/-- The escape is the only stuffed byte that stuffing leaves behind. -/
theorem stuffBytes_not_mem_stuff {b : UInt8} (hb : b ∈ stuffBytes) (hesc : b ≠ stuffEscape)
    (d : List UInt8) : b ∉ stuff d := by
  intro hmem
  rw [stuff_eq_encode] at hmem
  exact hesc (smaStuffing.mem_encode hmem (List.contains_iff_mem.mpr hb))

/-- Stuffing leaves no delimiter behind. -/
theorem delimiter_not_mem_stuff (d : List UInt8) : frameDelimiter ∉ stuff d :=
  stuffBytes_not_mem_stuff (by decide) (by decide) d

/-- The only error is a truncated escape, and it is made exactly on a dangling one. -/
theorem unstuff_eq_error_iff (s : List UInt8) (e : ParseError) :
    unstuff s = .error e ↔ e = .truncatedEscape ∧ smaStuffing.Dangling s := by
  rw [unstuff_eq_decode, ← smaStuffing.decode_eq_none_iff]
  cases smaStuffing.decode s with
  | none => simp [eq_comm]
  | some u => simp

/-- **Byte stuffing is lossless and clean.**  Un-stuffing undoes it; of the stuffed bytes only the escape
    is left, and never dangling; each stuffed byte costs one more; it respects concatenation.  Un-stuffing
    fails exactly if, read from the left, the last byte is an escape that is not itself the second byte
    of a pair. -/
theorem stuffing_lossless_clean :
    (∀ d : List UInt8, unstuff (stuff d) = .ok d ∧
      (∀ b ∈ [0x7E, 0x11, 0x12, 0x13], b ∉ stuff d) ∧
      ¬ smaStuffing.Dangling (stuff d) ∧
      (stuff d).length = d.length + d.countP (stuffBytes.contains ·)) ∧
    (∀ a b : List UInt8, stuff (a ++ b) = stuff a ++ stuff b) ∧
    ∀ (s : List UInt8) (e : ParseError),
      unstuff s = .error e ↔ e = .truncatedEscape ∧ smaStuffing.Dangling s := by
  refine ⟨fun d => ⟨unstuff_stuff d, ?_, ?_, ?_⟩, fun a b => ?_, unstuff_eq_error_iff⟩
  · have hstuffed : [0x7E, 0x11, 0x12, 0x13] = stuffBytes.erase stuffEscape := by decide
    intro b hb
    rw [hstuffed] at hb
    have hne : b ≠ stuffEscape := fun heq => absurd (heq ▸ hb) (by decide)
    exact stuffBytes_not_mem_stuff (List.mem_of_mem_erase hb) hne d
  · rw [stuff_eq_encode]
    exact smaStuffing.not_dangling_encode d
  · rw [stuff_eq_encode]
    exact smaStuffing.length_encode d
  · simp only [stuff_eq_encode]
    exact smaStuffing.encode_append a b

/-! ## The parser -/

/-- Where the L2 signature starts: right behind the header, or behind a `0x7E` separator. -/
def l2SigOffset (raw : List UInt8) : Option Nat :=
  if raw.length ≥ 22 ∧ readU32 (slice raw 18 22) = btL2Signature then some 18
  else if raw.length ≥ 23 ∧ byteAt raw 18 = frameDelimiter ∧
      readU32 (slice raw 19 23) = btL2Signature then some 19
  else none

def Frame.parse (raw : List UInt8) : Except ParseError Frame :=
  if hlen : raw.length < minFrameLen then .error (.tooShort raw.length minFrameLen)
  else if byteAt raw 0 ≠ frameDelimiter then .error (.missingStart (byteAt raw 0))
  else
    let lenLo := byteAt raw 1
    let lenHi := byteAt raw 2
    let declaredLen := readU16 [lenLo, lenHi]
    let hdrCks := byteAt raw 3
    let expectedCks := frameDelimiter ^^^ lenLo ^^^ lenHi
    if hdrCks ≠ expectedCks then .error (.headerChecksum hdrCks expectedCks)
    else
      let localBt := BtAddr.ofSlice raw 4 (by simp only [minFrameLen] at hlen; omega)
      let destBt := BtAddr.ofSlice raw 10 (by simp only [minFrameLen] at hlen; omega)
      let control := readU16 (slice raw 16 18)
      match l2SigOffset raw with
      | some sigOff =>
        if declaredLen.toNat ≠ raw.length then .error (.lengthMismatch declaredLen raw.length)
        else
          let hasTrailer := raw.getLast? = some frameDelimiter
          let stuffedEnd := if hasTrailer then raw.length - 1 else raw.length
          match unstuff (slice raw sigOff stuffedEnd) with
          | .error e => .error e
          | .ok unstuffed =>
            if hasTrailer then
              -- strip the two FCS bytes
              if unstuffed.length < 2 then .error (.tooShort unstuffed.length 2)
              else .ok ⟨.l2Wrapped, localBt, destBt, control, unstuffed.take (unstuffed.length - 2)⟩
            else .ok ⟨.l2Wrapped, localBt, destBt, control, unstuffed⟩
      | none =>
        if declaredLen.toNat ≠ raw.length then .error (.lengthMismatch declaredLen raw.length)
        else .ok ⟨.l1Only, localBt, destBt, control, raw.drop 18⟩

/-! ## The builder -/

/-- What `FrameBuilder` holds: the fields of the frame to be built. -/
structure FrameBuilder where
  kind : FrameKind
  localBt : BtAddr
  destBt : BtAddr
  control : UInt16
  payload : List UInt8

namespace FrameBuilder

def newWithKind (kind : FrameKind) (localBt destBt : BtAddr) (control : UInt16) : FrameBuilder :=
  ⟨kind, localBt, destBt, control, []⟩

def new (localBt destBt : BtAddr) (control : UInt16) : FrameBuilder :=
  newWithKind .l2Wrapped localBt destBt control

def extend (b : FrameBuilder) (bytes : List UInt8) : FrameBuilder :=
  { b with payload := b.payload ++ bytes }

/-- The 18 header bytes of a frame of `totalLen` bytes. -/
def l1Header (b : FrameBuilder) (totalLen : Nat) : List UInt8 :=
  let lenLo := UInt8.ofNat (totalLen &&& 0xFF)
  let lenHi := UInt8.ofNat ((totalLen >>> 8) &&& 0xFF)
  [frameDelimiter, lenLo, lenHi, frameDelimiter ^^^ lenLo ^^^ lenHi]
    ++ b.localBt.bytes ++ b.destBt.bytes
    ++ [(b.control &&& 0xFF).toUInt8, (b.control >>> 8).toUInt8]

def buildL1Only (b : FrameBuilder) : List UInt8 :=
  let totalLen := 18 + b.payload.length
  b.l1Header totalLen ++ b.payload

def buildL2Wrapped (b : FrameBuilder) : List UInt8 :=
  let fcsVal := (Fcs16.new.updateSlice b.payload).finalize
  let stuffed := stuff (b.payload ++ [(fcsVal &&& 0xFF).toUInt8, (fcsVal >>> 8).toUInt8])
  let totalLen := 18 + 1 + stuffed.length + 1
  b.l1Header totalLen ++ [frameDelimiter] ++ stuffed ++ [frameDelimiter]

def build (b : FrameBuilder) : List UInt8 :=
  match b.kind with
  | .l1Only => b.buildL1Only
  | .l2Wrapped => b.buildL2Wrapped

end FrameBuilder

/-! ## The L2 signature -/

/-- The signature as it stands on the wire. -/
def btL2SigBytes : List UInt8 := writeU32 btL2Signature

theorem btL2SigBytes_eq : btL2SigBytes = [0xFF, 0x03, 0x60, 0x65] := by decide

@[simp] theorem length_btL2SigBytes : btL2SigBytes.length = 4 := length_writeU32 _

/-- The signature is plain: stuffing leaves it alone. -/
theorem encode_btL2SigBytes : smaStuffing.encode btL2SigBytes = btL2SigBytes :=
  smaStuffing.encode_of_plain (by simp [btL2SigBytes_eq, smaStuffing, stuffBytes])

/-- The parser's test for a signature at position `i`. -/
theorem sig_at_iff (d : List UInt8) (i : Nat) :
    (d.length ≥ i + 4 ∧ readU32 (slice d i (i + 4)) = btL2Signature) ↔
      btL2SigBytes <+: d.drop i := by
  rw [List.prefix_iff_eq_take, length_btL2SigBytes, slice_add]
  constructor
  · rintro ⟨hlen, hread⟩
    have h4 : ((d.drop i).take 4).length = 4 := by
      simp only [List.length_take, List.length_drop]; omega
    rw [btL2SigBytes, ← hread, writeU32_readU32 h4]
  · intro heq
    have hlen := congrArg List.length heq
    rw [length_btL2SigBytes, List.length_take, List.length_drop] at hlen
    exact ⟨by omega, by rw [← heq]; exact readU32_writeU32 _⟩

/-- The signature offset, read off what follows the header. -/
theorem l2SigOffset_eq (raw : List UInt8) :
    l2SigOffset raw =
      if btL2SigBytes <+: raw.drop 18 then some 18
      else if frameDelimiter :: btL2SigBytes <+: raw.drop 18 then some 19 else none := by
  have h18 := sig_at_iff raw 18
  have h19 : (raw.length ≥ 23 ∧ byteAt raw 18 = frameDelimiter ∧
      readU32 (slice raw 19 23) = btL2Signature) ↔
        frameDelimiter :: btL2SigBytes <+: raw.drop 18 := by
    have h := sig_at_iff raw 19
    constructor
    · rintro ⟨hlen, hsep, hread⟩
      have hd : raw.drop 18 = frameDelimiter :: raw.drop 19 := by
        rw [← hsep, byteAt_eq_getElem (by omega), List.drop_eq_getElem_cons]
      rw [hd, List.cons_prefix_cons]
      exact ⟨rfl, h.mp ⟨hlen, hread⟩⟩
    · intro hp
      obtain ⟨t, ht⟩ := hp
      have hlen : 18 < raw.length := by
        have := congrArg List.length ht
        simp only [List.cons_append, List.length_cons, List.length_drop] at this
        omega
      rw [List.drop_eq_getElem_cons hlen, List.cons_append, List.cons.injEq] at ht
      obtain ⟨hlen', hread⟩ := h.mpr ⟨t, ht.2⟩
      exact ⟨hlen', by rw [byteAt_eq_getElem hlen, ht.1], hread⟩
  rw [l2SigOffset]
  simp only [h18, h19]

/-! ## The parser on a sound header -/

/-- The header checks of the parser, all passed. -/
structure HeaderOk (raw : List UInt8) : Prop where
  length_ge : minFrameLen ≤ raw.length
  start : byteAt raw 0 = frameDelimiter
  checksum : byteAt raw 3 = frameDelimiter ^^^ byteAt raw 1 ^^^ byteAt raw 2
  declared : (readU16 [byteAt raw 1, byteAt raw 2]).toNat = raw.length

/-- Kind and payload of a frame, from what follows the header. -/
def shapePayload (raw : List UInt8) : Except ParseError (FrameKind × List UInt8) :=
  match l2SigOffset raw with
  | none => .ok (.l1Only, raw.drop 18)
  | some sigOff =>
    if raw.getLast? = some frameDelimiter then
      match unstuff (slice raw sigOff (raw.length - 1)) with
      | .error e => .error e
      | .ok u =>
        if u.length < 2 then .error (.tooShort u.length 2)
        else .ok (.l2Wrapped, u.take (u.length - 2))
    else (unstuff (slice raw sigOff raw.length)).map fun u => (.l2Wrapped, u)

/-- **The parser on a sound header**: the header's fields, and the payload of the shape. -/
theorem parse_of_header {raw : List UInt8} (h : HeaderOk raw) :
    Frame.parse raw = (shapePayload raw).map fun p =>
      ⟨p.1, .ofSlice raw 4 (by have := h.length_ge; simp only [minFrameLen] at this; omega),
        .ofSlice raw 10 (by have := h.length_ge; simp only [minFrameLen] at this; omega),
        readU16 (slice raw 16 18), p.2⟩ := by
  have hlen := h.length_ge
  rw [Frame.parse, dif_neg (by omega), if_neg (by simp [h.start])]
  simp only [h.checksum, h.declared, ne_eq, not_true_eq_false, if_false]
  rw [shapePayload]
  cases l2SigOffset raw with
  | none => rfl
  | some sigOff =>
    simp only
    by_cases hlast : raw.getLast? = some frameDelimiter
    · simp only [if_pos hlast]
      cases unstuff (slice raw sigOff (raw.length - 1)) with
      | error e => rfl
      | ok u => simp only; split <;> rfl
    · simp only [if_neg hlast]
      cases unstuff (slice raw sigOff raw.length) <;> rfl

/-- A frame the parser accepts has a sound header. -/
theorem header_of_parse {raw : List UInt8} {f : Frame} (h : Frame.parse raw = .ok f) :
    HeaderOk raw := by
  rw [Frame.parse] at h
  split at h
  · nomatch h
  · rename_i hlen
    split at h
    · nomatch h
    · rename_i hstart
      simp only at h
      split at h
      · nomatch h
      · rename_i hcks
        have hdecl : (readU16 [byteAt raw 1, byteAt raw 2]).toNat = raw.length := by
          by_contra hne
          cases hoff : l2SigOffset raw <;> simp [hoff, hne] at h
        exact ⟨by omega, by simpa using hstart, by simpa using hcks, hdecl⟩

/-- An accepted frame is L2-wrapped, or there is no signature behind its header. -/
theorem kind_of_parse {raw : List UInt8} {f : Frame} (h : Frame.parse raw = .ok f) :
    f.kind = .l2Wrapped ∨ (l2SigOffset raw = none ∧ f.payload = raw.drop 18) := by
  rw [parse_of_header (header_of_parse h)] at h
  cases hshape : shapePayload raw with
  | error e =>
    rw [hshape] at h
    nomatch h
  | ok p =>
    rw [hshape] at h
    have hkind : f.kind = p.1 := (congrArg Frame.kind (Except.ok.inj h)).symm
    have hpayload : f.payload = p.2 := (congrArg Frame.payload (Except.ok.inj h)).symm
    rw [hkind, hpayload]
    rw [shapePayload] at hshape
    cases hoff : l2SigOffset raw with
    | none =>
      rw [hoff] at hshape
      obtain rfl := Except.ok.inj hshape
      exact .inr ⟨rfl, rfl⟩
    | some sigOff =>
      rw [hoff] at hshape
      simp only at hshape
      left
      split at hshape
      · cases hu : unstuff (slice raw sigOff (raw.length - 1)) with
        | error e =>
          rw [hu] at hshape
          nomatch hshape
        | ok u =>
          rw [hu] at hshape
          simp only at hshape
          split at hshape
          · nomatch hshape
          · rw [← Except.ok.inj hshape]
      · cases hu : unstuff (slice raw sigOff raw.length) with
        | error e =>
          rw [hu] at hshape
          nomatch hshape
        | ok u =>
          rw [hu] at hshape
          rw [← Except.ok.inj hshape]

/-! ## What can still go wrong behind a sound header -/

theorem unstuff_error {d : List UInt8} {e : ParseError} (h : unstuff d = .error e) :
    e = .truncatedEscape := by
  rw [unstuff_eq_decode] at h
  cases hdecode : smaStuffing.decode d with
  | some u =>
    rw [hdecode] at h
    nomatch h
  | none =>
    rw [hdecode] at h
    exact (Except.error.inj h).symm

/-- The signature holds nothing to un-stuff, so its four bytes are there afterwards. -/
theorem length_unstuff_of_sig {d u : List UInt8} (hsig : btL2SigBytes <+: d)
    (h : unstuff d = .ok u) : 4 ≤ u.length := by
  obtain ⟨t, rfl⟩ := hsig
  have hdecode := smaStuffing.decode_encode_append btL2SigBytes t
  rw [encode_btL2SigBytes] at hdecode
  rw [unstuff_eq_decode, hdecode] at h
  cases htail : smaStuffing.decode t with
  | none =>
    rw [htail] at h
    nomatch h
  | some v =>
    rw [htail] at h
    obtain rfl := Except.ok.inj h
    rw [List.length_append, length_btL2SigBytes]
    exact Nat.le_add_right 4 _

/-- A trailer cannot be the last byte of the signature: it stands behind it. -/
theorem sig_prefix_of_trailer {raw : List UInt8} {sigOff : Nat}
    (hsig : btL2SigBytes <+: raw.drop sigOff) (hlast : raw.getLast? = some frameDelimiter) :
    btL2SigBytes <+: slice raw sigOff (raw.length - 1) := by
  obtain ⟨t, ht⟩ := hsig
  have hlen := congrArg List.length ht
  rw [List.length_append, length_btL2SigBytes, List.length_drop] at hlen
  have hbehind : t ≠ [] := by
    rintro rfl
    have hend : (raw.drop sigOff).getLast? = raw.getLast? := by
      rw [List.getLast?_drop, if_neg (by omega)]
    rw [← ht, hlast, btL2SigBytes_eq] at hend
    exact absurd hend (by decide)
  have hpos := List.length_pos_of_ne_nil hbehind
  rw [slice, List.prefix_take_iff, length_btL2SigBytes]
  exact ⟨⟨t, ht⟩, by omega⟩

/-- Where the parser finds the signature, there it is. -/
theorem sig_of_l2SigOffset {raw : List UInt8} {sigOff : Nat} (h : l2SigOffset raw = some sigOff) :
    btL2SigBytes <+: raw.drop sigOff := by
  rw [l2SigOffset_eq] at h
  split at h
  · rename_i hbare
    rw [← Option.some.inj h]
    exact hbare
  · split at h
    · rename_i hsep
      obtain ⟨t, ht⟩ := hsep
      rw [← Option.some.inj h]
      refine ⟨t, ?_⟩
      rw [show 19 = 18 + 1 from rfl, ← List.drop_drop, ← ht]
      rfl
    · nomatch h

/-- **Behind a sound header** only an escape without its byte is an error: the signature is never
    too short for the checksum to be taken off. -/
theorem parse_error_of_header {raw : List UInt8} (h : HeaderOk raw) {e : ParseError}
    (he : Frame.parse raw = .error e) : e = .truncatedEscape := by
  have hshape : shapePayload raw = .error e := by
    rw [parse_of_header h] at he
    cases hpayload : shapePayload raw with
    | ok p =>
      rw [hpayload] at he
      nomatch he
    | error e' =>
      rw [hpayload] at he
      rw [Except.error.inj he]
  rw [shapePayload] at hshape
  cases hoff : l2SigOffset raw with
  | none =>
    rw [hoff] at hshape
    nomatch hshape
  | some sigOff =>
    have hsig := sig_of_l2SigOffset hoff
    rw [hoff] at hshape
    simp only at hshape
    split at hshape
    · rename_i hlast
      cases hbody : unstuff (slice raw sigOff (raw.length - 1)) with
      | error e' =>
        rw [hbody] at hshape
        rw [← Except.error.inj hshape]
        exact unstuff_error hbody
      | ok u =>
        have hlong := length_unstuff_of_sig (sig_prefix_of_trailer hsig hlast) hbody
        rw [hbody] at hshape
        simp only at hshape
        rw [if_neg (by omega)] at hshape
        nomatch hshape
    · cases hbody : unstuff (slice raw sigOff raw.length) with
      | error e' =>
        rw [hbody] at hshape
        rw [← Except.error.inj hshape]
        exact unstuff_error hbody
      | ok u =>
        rw [hbody] at hshape
        nomatch hshape

/-! ## What the builder writes -/

/-- Low byte, then high byte: the word as the builder puts it on the wire. -/
theorem lowHigh_eq_writeU16 (x : UInt16) :
    [(x &&& 0xFF).toUInt8, (x >>> 8).toUInt8] = writeU16 x := by
  have hlow : (x &&& 0xFF).toUInt8 = UInt8.ofNat x.toNat := by
    apply UInt8.toNat_inj.mp
    rw [UInt16.toNat_toUInt8, UInt16.toNat_and, UInt8.toNat_ofNat',
      show (0xFF : UInt16).toNat = 2 ^ 8 - 1 from rfl, Nat.and_two_pow_sub_one_eq_mod]
    exact Nat.mod_mod _ _
  have hhigh : (x >>> 8).toUInt8 = UInt8.ofNat (x.toNat / 256) := by
    apply UInt8.toNat_inj.mp
    rw [UInt16.toNat_toUInt8, UInt16.toNat_shiftRight, UInt8.toNat_ofNat',
      show (8 : UInt16).toNat % 16 = 8 from rfl, Nat.shiftRight_eq_div_pow]
  rw [hlow, hhigh]
  rfl

/-- A length below `2^16`, read back from its two bytes. -/
theorem readU16_len {n : Nat} (hn : n < 65536) :
    (readU16 [UInt8.ofNat (n &&& 0xFF), UInt8.ofNat ((n >>> 8) &&& 0xFF)]).toNat = n := by
  have hlow : (UInt8.ofNat (n &&& 0xFF)).toNat = n % 256 := by
    rw [UInt8.toNat_ofNat', show 0xFF = 2 ^ 8 - 1 from rfl, Nat.and_two_pow_sub_one_eq_mod,
      Nat.mod_mod]
  have hhigh : (UInt8.ofNat ((n >>> 8) &&& 0xFF)).toNat = n / 256 := by
    rw [UInt8.toNat_ofNat', show 0xFF = 2 ^ 8 - 1 from rfl, Nat.and_two_pow_sub_one_eq_mod,
      Nat.mod_mod, Nat.shiftRight_eq_div_pow]
    omega
  have hread : readU16 [UInt8.ofNat (n &&& 0xFF), UInt8.ofNat ((n >>> 8) &&& 0xFF)]
      = UInt16.ofNat (n % 256 + 256 * (n / 256 + 256 * 0)) := by
    rw [← hlow, ← hhigh]; rfl
  rw [hread, UInt16.toNat_ofNat']
  omega

namespace FrameBuilder

variable (b : FrameBuilder)

@[simp] theorem length_l1Header (n : Nat) : (b.l1Header n).length = 18 := by
  simp only [l1Header, List.length_append, b.localBt.length_eq, b.destBt.length_eq,
    List.length_cons, List.length_nil]

/-- The header of a frame that declares its own length is sound. -/
theorem headerOk_l1Header {n : Nat} {rest : List UInt8} (hn : n < 65536)
    (hlen : n = 18 + rest.length) : HeaderOk (b.l1Header n ++ rest) where
  length_ge := by simp [minFrameLen]
  start := rfl
  checksum := rfl
  declared := by
    rw [List.length_append, length_l1Header, ← hlen]
    exact readU16_len hn

theorem slice_localBt (n : Nat) (rest : List UInt8) :
    slice (b.l1Header n ++ rest) 4 10 = b.localBt.bytes := by
  rw [l1Header]
  simp only [List.append_assoc]
  rw [slice_append_right (by simp)]
  have h := slice_zero_append b.localBt.bytes
    (b.destBt.bytes ++ ([(b.control &&& 0xFF).toUInt8, (b.control >>> 8).toUInt8] ++ rest))
  rw [b.localBt.length_eq] at h
  exact h

theorem slice_destBt (n : Nat) (rest : List UInt8) :
    slice (b.l1Header n ++ rest) 10 16 = b.destBt.bytes := by
  rw [l1Header]
  simp only [List.append_assoc]
  rw [slice_append_right (by simp), slice_append_right (by simp [b.localBt.length_eq]),
    b.localBt.length_eq]
  have h := slice_zero_append b.destBt.bytes
    ([(b.control &&& 0xFF).toUInt8, (b.control >>> 8).toUInt8] ++ rest)
  rw [b.destBt.length_eq] at h
  exact h

theorem slice_control (n : Nat) (rest : List UInt8) :
    slice (b.l1Header n ++ rest) 16 18 = writeU16 b.control := by
  rw [l1Header, lowHigh_eq_writeU16]
  simp only [List.append_assoc]
  rw [slice_append_right (by simp), slice_append_right (by simp [b.localBt.length_eq]),
    slice_append_right (by simp [b.localBt.length_eq, b.destBt.length_eq]),
    b.localBt.length_eq, b.destBt.length_eq]
  have h := slice_zero_append (writeU16 b.control) rest
  rw [length_writeU16] at h
  exact h

/-- Parsing behind a header the builder wrote: its fields, and the shape's payload. -/
theorem parse_l1Header {n : Nat} {rest : List UInt8} (hn : n < 65536)
    (hlen : n = 18 + rest.length) :
    Frame.parse (b.l1Header n ++ rest) = (shapePayload (b.l1Header n ++ rest)).map fun p =>
      ⟨p.1, b.localBt, b.destBt, b.control, p.2⟩ := by
  have hlocal : ∀ h, BtAddr.ofSlice (b.l1Header n ++ rest) 4 h = b.localBt := fun _ =>
    BtAddr.mk.injEq .. ▸ b.slice_localBt n rest
  have hdest : ∀ h, BtAddr.ofSlice (b.l1Header n ++ rest) 10 h = b.destBt := fun _ =>
    BtAddr.mk.injEq .. ▸ b.slice_destBt n rest
  rw [parse_of_header (b.headerOk_l1Header hn hlen)]
  simp only [hlocal, hdest, slice_control, readU16_writeU16]

theorem drop_l1Header (n : Nat) (rest : List UInt8) : (b.l1Header n ++ rest).drop 18 = rest :=
  List.drop_left' (b.length_l1Header n)

/-- An L2-wrapped frame with any word in the place of its checksum. -/
def l2WrappedWith (fcsVal : UInt16) : List UInt8 :=
  let stuffed := stuff (b.payload ++ writeU16 fcsVal)
  b.l1Header (20 + stuffed.length) ++ (frameDelimiter :: stuffed ++ [frameDelimiter])

theorem length_l2WrappedWith_le (fcsVal : UInt16) :
    (b.l2WrappedWith fcsVal).length ≤ 24 + 2 * b.payload.length := by
  have hstuff := smaStuffing.length_encode_le (b.payload ++ writeU16 fcsVal)
  rw [← stuff_eq_encode, List.length_append, length_writeU16] at hstuff
  rw [l2WrappedWith]
  simp only [List.length_append, length_l1Header, List.length_cons, List.length_nil]
  omega

theorem buildL2Wrapped_eq : b.buildL2Wrapped = b.l2WrappedWith (Fcs.compute b.payload) := by
  rw [buildL2Wrapped, l2WrappedWith, lowHigh_eq_writeU16, ← Fcs.compute]
  simp only [List.append_assoc, List.cons_append, List.nil_append]
  rw [show ∀ k, 18 + 1 + k + 1 = 20 + k by omega]

end FrameBuilder

/-! ## Round trip -/

/-- A string that starts with the signature still does when stuffed. -/
theorem stuff_sig {d : List UInt8} (h : btL2SigBytes <+: d) : btL2SigBytes <+: stuff d := by
  obtain ⟨t, rfl⟩ := h
  rw [stuff_eq_encode, smaStuffing.encode_append, encode_btL2SigBytes]
  exact List.prefix_append _ _

section Body

variable (b : FrameBuilder) (n : Nat) {sep rest : List UInt8}

/-- The signature is found behind the separator, or right behind the header. -/
theorem l2SigOffset_sep (hsep : sep = [] ∨ sep = [frameDelimiter]) (hsig : btL2SigBytes <+: rest) :
    l2SigOffset (b.l1Header n ++ (sep ++ rest)) = some (18 + sep.length) := by
  rw [l2SigOffset_eq, b.drop_l1Header]
  rcases hsep with rfl | rfl
  · rw [List.nil_append, if_pos hsig]
    rfl
  · rw [if_neg, if_pos]
    · rfl
    · exact List.cons_prefix_cons.mpr ⟨rfl, hsig⟩
    · rintro ⟨t, ht⟩
      exact absurd (List.cons.inj ht).1 (by decide)

/-- The frame from the signature on, up to any point in it. -/
theorem slice_sep (k : Nat) :
    slice (b.l1Header n ++ (sep ++ rest)) (18 + sep.length) (18 + sep.length + k)
      = rest.take k := by
  have hdrop : (b.l1Header n ++ (sep ++ rest)).drop (18 + sep.length) = rest := by
    rw [← List.drop_drop, b.drop_l1Header]
    exact List.drop_left
  rw [slice_add, hdrop]

theorem length_sep :
    (b.l1Header n ++ (sep ++ rest)).length = 18 + sep.length + rest.length := by
  rw [List.length_append, List.length_append, b.length_l1Header, Nat.add_assoc]

theorem getLast?_sep (hrest : rest ≠ []) :
    (b.l1Header n ++ (sep ++ rest)).getLast? = rest.getLast? := by
  rw [List.getLast?_append_of_ne_nil _ (List.append_ne_nil_of_right_ne_nil _ hrest),
    List.getLast?_append_of_ne_nil _ hrest]

/-- With a trailer, the two bytes in front of it are taken off. -/
theorem shapePayload_trailer (fcsVal : UInt16) {p : List UInt8}
    (hsep : sep = [] ∨ sep = [frameDelimiter]) (hsig : btL2SigBytes <+: p) :
    shapePayload (b.l1Header n ++ (sep ++ (stuff (p ++ writeU16 fcsVal) ++ [frameDelimiter])))
      = .ok (.l2Wrapped, p) := by
  have hsig' : btL2SigBytes <+: stuff (p ++ writeU16 fcsVal) ++ [frameDelimiter] :=
    (stuff_sig (hsig.trans (List.prefix_append _ _))).trans (List.prefix_append _ _)
  have hunstuff : unstuff (stuff (p ++ writeU16 fcsVal)) = .ok (p ++ writeU16 fcsVal) :=
    unstuff_stuff _
  generalize stuff (p ++ writeU16 fcsVal) = stuffed at *
  have hlast : (b.l1Header n ++ (sep ++ (stuffed ++ [frameDelimiter]))).getLast?
      = some frameDelimiter := by
    rw [getLast?_sep b n (by simp), List.getLast?_concat]
  have hend : (b.l1Header n ++ (sep ++ (stuffed ++ [frameDelimiter]))).length - 1
      = 18 + sep.length + stuffed.length := by
    rw [length_sep b n, List.length_append, List.length_singleton]
    omega
  rw [shapePayload, l2SigOffset_sep b n hsep hsig']
  simp only [if_pos hlast]
  rw [hend, slice_sep b n, List.take_left, hunstuff]
  simp only
  rw [if_neg (by simp), List.length_append, length_writeU16, Nat.add_sub_cancel, List.take_left]

end Body

/-- **The checksum is never looked at**: with any word in its place the frame is accepted, and the
    parse is the same. -/
theorem FrameBuilder.parse_l2WrappedWith (b : FrameBuilder) (fcsVal : UInt16)
    (hsig : btL2SigBytes <+: b.payload) (hlen : (b.l2WrappedWith fcsVal).length < 65536) :
    Frame.parse (b.l2WrappedWith fcsVal)
      = .ok ⟨.l2Wrapped, b.localBt, b.destBt, b.control, b.payload⟩ := by
  rw [l2WrappedWith] at hlen ⊢
  have hpayload := shapePayload_trailer b (20 + (stuff (b.payload ++ writeU16 fcsVal)).length) fcsVal
    (.inr rfl) hsig
  have hdeclared : 20 + (stuff (b.payload ++ writeU16 fcsVal)).length
      = 18 + ([frameDelimiter] ++ (stuff (b.payload ++ writeU16 fcsVal) ++ [frameDelimiter])).length := by
    simp only [List.length_append, List.length_cons, List.length_nil]
    omega
  simp only [List.length_append, length_l1Header, List.length_cons, List.length_nil] at hlen
  have hparse := b.parse_l1Header (by omega) hdeclared
  rw [hpayload] at hparse
  exact hparse

/-- A built L2 frame of reasonable size is parsed back. -/
theorem FrameBuilder.parse_build {b : FrameBuilder} (hkind : b.kind = .l2Wrapped)
    (hsig : btL2SigBytes <+: b.payload) (hlen : b.payload.length ≤ 32700) :
    Frame.parse b.build = .ok ⟨.l2Wrapped, b.localBt, b.destBt, b.control, b.payload⟩ := by
  have hbound := b.length_l2WrappedWith_le (Fcs.compute b.payload)
  rw [build, hkind]
  simp only
  rw [b.buildL2Wrapped_eq]
  exact b.parse_l2WrappedWith _ hsig (by omega)

namespace Frame

/-- The builder loaded with the fields of a frame. -/
def toBuilder (m : Frame) : FrameBuilder :=
  (FrameBuilder.newWithKind m.kind m.localBt m.destBt m.control).extend m.payload

/-- The frame as the builder puts it on the wire. -/
def wire (m : Frame) : List UInt8 := m.toBuilder.build

/-- The payload fits the kind: an L2 payload starts with the signature, an L1-only payload is not
    taken for an L2 one. -/
def WellShaped (m : Frame) : Prop :=
  match m.kind with
  | .l1Only => ¬ btL2SigBytes <+: m.payload ∧ ¬ frameDelimiter :: btL2SigBytes <+: m.payload
  | .l2Wrapped => btL2SigBytes <+: m.payload

@[simp] theorem toBuilder_payload (m : Frame) : m.toBuilder.payload = m.payload := rfl

theorem length_wire_l1Only {m : Frame} (hkind : m.kind = .l1Only) :
    m.wire.length = 18 + m.payload.length := by
  have hwire : m.wire = m.toBuilder.l1Header (18 + m.payload.length) ++ m.payload := by
    rw [wire, FrameBuilder.build, show m.toBuilder.kind = m.kind from rfl, hkind]
    rfl
  rw [hwire, List.length_append, FrameBuilder.length_l1Header]

/-- **Round trip.**  A well-shaped frame whose wire form fits the 16-bit length is read back. -/
theorem parse_wire {m : Frame} (hshape : m.WellShaped) (hlen : m.wire.length < 65536) :
    parse m.wire = .ok m := by
  obtain ⟨kind, localBt, destBt, control, payload⟩ := m
  cases kind with
  | l1Only =>
    obtain ⟨hsig, hsep⟩ := hshape
    have hwire : wire ⟨.l1Only, localBt, destBt, control, payload⟩
        = (toBuilder ⟨.l1Only, localBt, destBt, control, payload⟩).l1Header (18 + payload.length)
          ++ payload := rfl
    rw [hwire] at hlen ⊢
    simp only [List.length_append, FrameBuilder.length_l1Header] at hlen
    rw [FrameBuilder.parse_l1Header _ hlen rfl, shapePayload, l2SigOffset_eq,
      FrameBuilder.drop_l1Header, if_neg hsig, if_neg hsep]
    rfl
  | l2Wrapped =>
    have hwire : wire ⟨.l2Wrapped, localBt, destBt, control, payload⟩
        = (toBuilder ⟨.l2Wrapped, localBt, destBt, control, payload⟩).l2WrappedWith
          (Fcs.compute payload) := FrameBuilder.buildL2Wrapped_eq _
    rw [hwire] at hlen ⊢
    exact FrameBuilder.parse_l2WrappedWith _ _ hshape hlen

end Frame

/-! ## The checksum in the trailer -/

/-- The un-stuffed bytes from the signature to the trailer are the payload and its FCS-16. -/
def TrailerIntact (raw : List UInt8) (f : Frame) : Prop :=
  ∃ sigOff, l2SigOffset raw = some sigOff ∧
    unstuff (slice raw sigOff (raw.length - 1))
      = .ok (f.payload ++ writeU16 (Fcs.compute f.payload))

/-- A classic L2 frame read out of `raw` is intact. -/
def ClassicIntact (raw : List UInt8) : Prop :=
  ∀ f, Frame.parse raw = .ok f → f.kind = .l2Wrapped → raw.getLast? = some frameDelimiter →
    TrailerIntact raw f

/-- The last two un-stuffed bytes are the FCS-16 of the ones before. -/
def FcsMatches (raw : List UInt8) : Prop :=
  ∀ sigOff u, l2SigOffset raw = some sigOff → unstuff (slice raw sigOff (raw.length - 1)) = .ok u →
    2 ≤ u.length → u.drop (u.length - 2) = writeU16 (Fcs.compute (u.take (u.length - 2)))

/-- A classic L2 frame is accepted exactly when its stuffed region can be un-stuffed and holds at
    least the two checksum bytes, which are dropped. -/
theorem parse_classic_iff {raw : List UInt8} (h : HeaderOk raw)
    (hlast : raw.getLast? = some frameDelimiter) (p : List UInt8) :
    (∃ f, Frame.parse raw = .ok f ∧ f.kind = .l2Wrapped ∧ f.payload = p) ↔
      ∃ sigOff u, l2SigOffset raw = some sigOff ∧
        unstuff (slice raw sigOff (raw.length - 1)) = .ok u ∧ 2 ≤ u.length ∧
        p = u.take (u.length - 2) := by
  rw [parse_of_header h, shapePayload]
  cases hoff : l2SigOffset raw with
  | none => simp [Except.map]
  | some sigOff =>
    simp only [if_pos hlast, Option.some.injEq]
    cases hu : unstuff (slice raw sigOff (raw.length - 1)) with
    | error e => simp [Except.map, hu]
    | ok u =>
      by_cases hlen : u.length < 2
      · simp [Except.map, hu, hlen]
      · simp [Except.map, hu, hlen, eq_comm (a := p), Nat.not_lt.mp hlen]

/-- An intact frame carries its own checksum. -/
theorem fcsMatches_of_intact {raw : List UInt8} (hintact : ClassicIntact raw) (hok : HeaderOk raw)
    (hlast : raw.getLast? = some frameDelimiter) : FcsMatches raw := by
  intro sigOff u hoff hu hlen
  obtain ⟨f, hf, hkind, hpayload⟩ :=
    (parse_classic_iff hok hlast _).mpr ⟨sigOff, u, hoff, hu, hlen, rfl⟩
  obtain ⟨sigOff', hoff', hregion⟩ := hintact f hf hkind hlast
  obtain rfl : sigOff = sigOff' := Option.some.inj (hoff.symm.trans hoff')
  rw [hu, hpayload, Except.ok.injEq] at hregion
  exact List.append_cancel_left ((List.take_append_drop _ u).trans hregion)

/-- **When a classic L2 frame is intact**: the parser compares no checksum, so exactly when the
    frame is refused for its header, or the two bytes it strips are the checksum anyway. -/
theorem classicIntact_iff (raw : List UInt8) :
    ClassicIntact raw ↔
      (HeaderOk raw → raw.getLast? = some frameDelimiter → FcsMatches raw) := by
  constructor
  · intro hintact hok hlast
    exact fcsMatches_of_intact hintact hok hlast
  · intro hmatch f hf hkind hlast
    have hok := header_of_parse hf
    obtain ⟨sigOff, u, hoff, hu, hlen, hpayload⟩ :=
      (parse_classic_iff hok hlast _).mp ⟨f, hf, hkind, rfl⟩
    refine ⟨sigOff, hoff, ?_⟩
    rw [hpayload, ← hmatch hok hlast sigOff u hoff hu hlen, List.take_append_drop]
    exact hu

/-- A 26-byte frame whose payload is the bare signature and whose checksum reads zero. -/
def zeroFcsFrame : List UInt8 :=
  [0x7E, 0x1A, 0x00, 0x64, 0, 0, 0, 0, 0, 0, 0, 0, 0, 0, 0, 0, 0x01, 0x00,
    0x7E, 0xFF, 0x03, 0x60, 0x65, 0x00, 0x00, 0x7E]

theorem zeroFcsFrame_not_intact : ¬ ClassicIntact zeroFcsFrame := by
  intro h
  have hok : HeaderOk zeroFcsFrame := ⟨by decide, by decide, by decide, by decide⟩
  have hfcs := fcsMatches_of_intact h hok (by decide) 19 [0xFF, 0x03, 0x60, 0x65, 0x00, 0x00]
    (by decide) (by decide) (by decide)
  exact absurd hfcs (by decide +kernel)

end HassSma
