/-
  The shapes an L2 frame is received in (`sma-bt-protocol/src/frame.rs`).

  The builder writes one shape only: separator, stuffed payload and checksum, trailer.  An inverter
  also answers without the separator, and its unsolicited pushes have neither checksum nor trailer.
  The parser tells them apart by two bytes: what stands behind the header, and whether the frame ends
  in `0x7E`.  Both tests are sound because stuffing takes every `0x7E` out of the body, so a push never
  ends in one and a trailer is never a payload byte: all four shapes of a payload parse to that
  payload (`parse_shape`).

  `parseL2OnlyBlob` is the second decoder, for frames whose header has been cut off.  It does not know
  the length and looks for the first `0x7E` behind the signature.  For the same reason this is the
  trailer, and what follows it does not matter (`parseL2OnlyBlob_build`).
-/
import HassSma.Protocol.Frame

namespace HassSma

open Bytes

/-! ## Shapes -/

/-- How a payload stands behind the header. -/
inductive ReceiveShape where
  /-- What the builder writes. -/
  | separated
  /-- A classic reply. -/
  | bare
  /-- An unsolicited push. -/
  | push
  | separatedPush
  deriving DecidableEq, Repr

namespace ReceiveShape

/-- What stands between header and stuffed bytes. -/
def separator : ReceiveShape → List UInt8
  | separated => [frameDelimiter]
  | bare => []
  | push => []
  | separatedPush => [frameDelimiter]

/-- The stuffed bytes, and the trailer if there is one. -/
def stuffedPart (p : List UInt8) : ReceiveShape → List UInt8
  | separated => stuff (p ++ writeU16 (Fcs.compute p)) ++ [frameDelimiter]
  | bare => stuff (p ++ writeU16 (Fcs.compute p)) ++ [frameDelimiter]
  | push => stuff p
  | separatedPush => stuff p

/-- Everything behind the header. -/
def body (shape : ReceiveShape) (p : List UInt8) : List UInt8 :=
  shape.separator ++ shape.stuffedPart p

end ReceiveShape

/-! ## Finding the body -/

section Body

variable (b : FrameBuilder) (n : Nat) {sep : List UInt8}

/-- Without one, nothing is: a stuffed payload cannot end in a delimiter. -/
theorem shapePayload_push {p : List UInt8} (hsep : sep = [] ∨ sep = [frameDelimiter])
    (hsig : btL2SigBytes <+: p) :
    shapePayload (b.l1Header n ++ (sep ++ stuff p)) = .ok (.l2Wrapped, p) := by
  have hsig' : btL2SigBytes <+: stuff p := stuff_sig hsig
  have hne : stuff p ≠ [] := by
    intro hnil
    rw [hnil, List.prefix_nil] at hsig'
    exact absurd (congrArg List.length hsig') (by decide)
  have hlast : (b.l1Header n ++ (sep ++ stuff p)).getLast? ≠ some frameDelimiter := by
    rw [getLast?_sep b n hne]
    intro h
    exact delimiter_not_mem_stuff p (List.mem_of_getLast? h)
  rw [shapePayload, l2SigOffset_sep b n hsep hsig']
  simp only [if_neg hlast]
  rw [length_sep b n, slice_sep b n, List.take_length, unstuff_stuff]
  rfl

end Body

/-! ## All shapes parse to the payload -/

/-- **The receive shapes agree.**  Behind a correct header every shape of a payload that starts with the
    signature is an L2 frame with the header's fields and that payload. -/
theorem parse_shape (localBt destBt : BtAddr) (control : UInt16) {p : List UInt8}
    (hsig : [0xFF, 0x03, 0x60, 0x65] <+: p) (shape : ReceiveShape)
    (hlen : 18 + (shape.body p).length ≤ 65535) :
    Frame.parse ((FrameBuilder.new localBt destBt control).l1Header (18 + (shape.body p).length)
        ++ shape.body p)
      = .ok ⟨.l2Wrapped, localBt, destBt, control, p⟩ := by
  rw [← btL2SigBytes_eq] at hsig
  have hpayload : ∀ b n, shapePayload (FrameBuilder.l1Header b n ++ shape.body p)
      = .ok (.l2Wrapped, p) := by
    intro b n
    cases shape with
    | separated => exact shapePayload_trailer b n _ (.inr rfl) hsig
    | bare => exact shapePayload_trailer b n _ (.inl rfl) hsig
    | push => exact shapePayload_push b n (.inl rfl) hsig
    | separatedPush => exact shapePayload_push b n (.inr rfl) hsig
  rw [FrameBuilder.parse_l1Header _ (by omega) rfl, hpayload]
  rfl

/-- A push whose only payload byte behind the signature is an escaped `0x7E`. -/
theorem parse_shape_push :
    Frame.parse ((FrameBuilder.new (.fill 1) (.fill 2) 8).l1Header
        (18 + (ReceiveShape.push.body [0xFF, 0x03, 0x60, 0x65, 0x7E]).length)
        ++ ReceiveShape.push.body [0xFF, 0x03, 0x60, 0x65, 0x7E])
      = .ok ⟨.l2Wrapped, .fill 1, .fill 2, 8, [0xFF, 0x03, 0x60, 0x65, 0x7E]⟩ :=
  parse_shape (.fill 1) (.fill 2) 8 (List.prefix_append _ [0x7E]) .push (by decide)

/-! ## Frames without a header -/

/-- The payload of a frame whose header has been cut off. -/
def parseL2OnlyBlob (raw : List UInt8) : Except ParseError (List UInt8) :=
  if raw.length < 6 then .error (.tooShort raw.length 6)
  else if byteAt raw 0 ≠ frameDelimiter then .error (.missingStart (byteAt raw 0))
  else if slice raw 1 5 ≠ [0xFF, 0x03, 0x60, 0x65] then
    .error (.headerChecksum (byteAt raw 1) 0xFF)
  else
    -- the first delimiter at position 5 or behind
    match (raw.drop 5).findIdx? (· == frameDelimiter) with
    | none => .error (.missingEnd 0)
    | some i =>
      match unstuff (slice raw 1 (5 + i)) with
      | .error e => .error e
      | .ok unstuffed =>
        if unstuffed.length < 2 then .error (.tooShort unstuffed.length 2)
        else .ok (unstuffed.take (unstuffed.length - 2))

/-- The first delimiter behind bytes that have none is the one that follows them. -/
theorem findIdx?_delimiter {rest junk : List UInt8} (h : frameDelimiter ∉ rest) :
    (rest ++ frameDelimiter :: junk).findIdx? (· == frameDelimiter) = some rest.length := by
  have hnone : rest.findIdx? (· == frameDelimiter) = none := by
    rw [List.findIdx?_eq_none_iff]
    intro x hx
    rw [beq_eq_false_iff_ne]
    rintro rfl
    exact h hx
  rw [List.findIdx?_append, hnone, List.findIdx?_cons, beq_self_eq_true]
  simp

/-- What stands behind the trailer is not looked at. -/
theorem parseL2OnlyBlob_stuffed {p : List UInt8} (fcsVal : UInt16) (hsig : btL2SigBytes <+: p)
    (junk : List UInt8) :
    parseL2OnlyBlob (frameDelimiter :: stuff (p ++ writeU16 fcsVal) ++ frameDelimiter :: junk)
      = .ok p := by
  have hnone : frameDelimiter ∉ stuff (p ++ writeU16 fcsVal) := delimiter_not_mem_stuff _
  have hunstuff : unstuff (stuff (p ++ writeU16 fcsVal)) = .ok (p ++ writeU16 fcsVal) :=
    unstuff_stuff _
  obtain ⟨rest, hrest⟩ := stuff_sig (hsig.trans (List.prefix_append p (writeU16 fcsVal)))
  rw [← hrest] at hnone hunstuff ⊢
  have hbehind : frameDelimiter ∉ rest := fun h => hnone (List.mem_append_right _ h)
  have hlen : ¬ (frameDelimiter :: (btL2SigBytes ++ rest) ++ frameDelimiter :: junk).length < 6 := by
    simp only [List.length_append, List.length_cons, length_btL2SigBytes]
    omega
  have hstart : byteAt (frameDelimiter :: (btL2SigBytes ++ rest) ++ frameDelimiter :: junk) 0
      = frameDelimiter := rfl
  have hplain : slice (frameDelimiter :: (btL2SigBytes ++ rest) ++ frameDelimiter :: junk) 1 5
      = [0xFF, 0x03, 0x60, 0x65] := by
    rw [btL2SigBytes_eq]
    rfl
  have hdrop : (frameDelimiter :: (btL2SigBytes ++ rest) ++ frameDelimiter :: junk).drop 5
      = rest ++ frameDelimiter :: junk := by
    rw [btL2SigBytes_eq]
    rfl
  have hregion : slice (frameDelimiter :: (btL2SigBytes ++ rest) ++ frameDelimiter :: junk) 1
      (5 + rest.length) = btL2SigBytes ++ rest := by
    have hlength : 5 + rest.length - 1 = (btL2SigBytes ++ rest).length := by
      rw [List.length_append, length_btL2SigBytes]
      omega
    rw [slice, hlength]
    exact List.take_left
  rw [parseL2OnlyBlob, if_neg hlen, if_neg (not_not_intro hstart), if_neg (not_not_intro hplain), hdrop,
    findIdx?_delimiter hbehind]
  simp only [hregion, hunstuff]
  rw [if_neg (by simp), List.length_append, length_writeU16, Nat.add_sub_cancel, List.take_left]

/-- **The two decoders agree on built frames**: cut off the header and put anything behind the trailer,
    the blob decoder still returns the payload, which is the one the parser returns. -/
theorem parseL2OnlyBlob_build {b : FrameBuilder} (hkind : b.kind = .l2Wrapped)
    (hsig : [0xFF, 0x03, 0x60, 0x65] <+: b.payload) (hlen : b.build.length ≤ 65535)
    (junk : List UInt8) :
    parseL2OnlyBlob (b.build.drop 18 ++ junk) = .ok b.payload ∧
      (Frame.parse b.build).map Frame.payload = parseL2OnlyBlob (b.build.drop 18 ++ junk) := by
  rw [← btL2SigBytes_eq] at hsig
  have hwire : b.build = b.l2WrappedWith (Fcs.compute b.payload) := by
    rw [FrameBuilder.build, hkind]
    exact b.buildL2Wrapped_eq
  have hblob : parseL2OnlyBlob (b.build.drop 18 ++ junk) = .ok b.payload := by
    rw [hwire, FrameBuilder.l2WrappedWith, b.drop_l1Header, List.append_assoc]
    exact parseL2OnlyBlob_stuffed _ hsig junk
  refine ⟨hblob, ?_⟩
  rw [hblob, hwire, b.parse_l2WrappedWith _ hsig (by rw [← hwire]; omega)]
  rfl

/-- A built frame with another frame's start behind it. -/
theorem parseL2OnlyBlob_build_junk :
    let b := (FrameBuilder.new (.fill 1) (.fill 2) 1).extend [0xFF, 0x03, 0x60, 0x65, 0x7E, 0x11]
    parseL2OnlyBlob (b.build.drop 18 ++ [0x7E, 0xFF, 0x03, 0x60, 0x65]) = .ok b.payload ∧
      (Frame.parse b.build).map Frame.payload
        = parseL2OnlyBlob (b.build.drop 18 ++ [0x7E, 0xFF, 0x03, 0x60, 0x65]) :=
  parseL2OnlyBlob_build rfl (List.prefix_append _ [0x7E, 0x11]) (by decide +kernel) _

end HassSma
