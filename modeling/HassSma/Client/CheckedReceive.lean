/-
  The receive path with every access checked, from the bytes of the peer to the parsers of reply bodies.

  Behind the frame reader, whose turn is in `CheckedFramer`, the functions between the stream and the
  parsers of `CheckedValues` stand here a second time, access by access as in the source: `Frame::parse`
  (`frame.rs`), `decode_l2` (`packet.rs`), and what the handshake does with the hello and with the
  topology (`session.rs`).  None of them traps, and what comes out is what the model without checks gives
  (`receive_never_traps`).  There is a length check in front of every access, so these are case splits.
-/
import HassSma.Bluez.Address
import HassSma.Bluez.CheckedFramer
import HassSma.Client.CheckedValues
import HassSma.Client.Handshake

namespace HassSma

open Bytes Checked

/-! ## The hello and the topology

    What the handshake reads out of the two frames it gets before the logon. -/

/-- The sender of a hello and the net id in it. -/
def readHello (helloBytes : List UInt8) : Except SessionError (BtAddr × UInt8) :=
  match Frame.parse helloBytes with
  | .error e => .error (.parse e)
  | .ok hello =>
    if hello.control ≠ 0x0002 then .error (.protocol "hello-ctrl")
    else if helloBytes.length < 23 then .error (.protocol "hello-short")
    else if byteAt helloBytes 19 < 4 then .error (.firmwareTooOld (byteAt helloBytes 19))
    else .ok (hello.localBt, byteAt helloBytes 22)

/-- A device of the piconet as it goes into the log: its address, high byte first, and its kind. -/
def peerText (mac : List UInt8) (flagsLo flagsHi : UInt8) : String :=
  let macStr := ":".intercalate (mac.map hex02)
  let kind :=
    if flagsLo = 0x01 ∧ flagsHi = 0x01 then "inverter"
    else if flagsLo = 0x02 ∧ flagsHi = 0x01 then "host/local"
    else "unknown"
  macStr ++ " (" ++ kind ++ ")"

/-- The device of an entry: an address, low byte first, and two flag bytes. -/
def topologyPeer (entry : List UInt8) : String :=
  peerText [byteAt entry 5, byteAt entry 4, byteAt entry 3, byteAt entry 2, byteAt entry 1,
    byteAt entry 0] (byteAt entry 6) (byteAt entry 7)

/-- The devices of a topology, 8 bytes each. -/
def topologyPeers (topologyBytes : List UInt8) : List String :=
  (sizedRecords 8 (topologyBytes.drop 18)).map topologyPeer

example : topologyPeers (List.replicate 18 0
    ++ [0xB6, 0xDC, 0x8E, 0x25, 0x80, 0x00, 0x01, 0x01, 0xFF]) = ["00:80:25:8E:DC:B6 (inverter)"] := by
  decide +kernel

namespace Session

variable {T : Type} [Transport T]

/-- What the handshake does with the hello. -/
theorem helloSteps_eq (next : BtAddr → SessionM T Unit) :
    helloSteps next = (do
      modify fun s => { s with state := .handshaking }
      let _ ← sendFrame verWire
      let helloBytes ← recvFrame "hello"
      let (inverterBt, netId) ← liftExcept (readHello helloBytes)
      let _ ← sendFrame (echoWire inverterBt netId)
      let _ ← recvUntilL1Ctrl 0x0005 "topology"
      next inverterBt) := by
  rw [helloSteps]
  refine bind_congr fun _ => bind_congr fun _ => bind_congr fun helloBytes => ?_
  rw [parseFrame, readHello]
  cases Frame.parse helloBytes with
  | error e => rfl
  | ok hello =>
    simp only [ensure, pure_bind]
    by_cases hctrl : hello.control = 0x0002
    · rw [if_pos hctrl, if_neg (not_not_intro hctrl), pure_bind]
      by_cases hlong : 23 ≤ helloBytes.length
      · rw [if_pos hlong, if_neg (Nat.not_lt.mpr hlong), pure_bind]
        by_cases hfirmware : 4 ≤ byteAt helloBytes 19
        · rw [if_pos hfirmware, if_neg (UInt8.not_lt.mpr hfirmware), pure_bind]
          rfl
        · rw [if_neg hfirmware, if_pos (UInt8.not_le.mp hfirmware)]
          rfl
      · rw [if_neg hlong, if_pos (Nat.not_le.mp hlong)]
        rfl
    · rw [if_neg hctrl, if_pos hctrl]
      rfl

end Session

namespace Literal

/-! ## The parser of frames -/

/-- `copy_from_slice` into an address. -/
def btAddr (bytes : List UInt8) : Checked BtAddr :=
  if h : bytes.length = 6 then .ok ⟨bytes, h⟩ else .error (.size 6 bytes.length)

/-- `LittleEndian::read_u32(&raw[lo..hi]) == BT_L2_SIGNATURE` -/
def signatureAt (raw : List UInt8) (lo hi : Nat) : Checked Bool := do
  let word ← u32At raw lo hi
  pure (word = btL2Signature)

/-- The signature right behind the header. -/
def plainSignature (raw : List UInt8) : Checked Bool :=
  if raw.length ≥ 22 then signatureAt raw 18 22 else pure false

/-- The signature behind a separator. -/
def separatedSignature (raw : List UInt8) : Checked Bool :=
  if raw.length ≥ 23 then do
    let separator ← index raw 18
    if separator = frameDelimiter then signatureAt raw 19 23 else pure false
  else pure false

def l2SigOffset (raw : List UInt8) : Checked (Option Nat) := do
  if ← plainSignature raw then pure (some 18)
  else if ← separatedSignature raw then pure (some 19)
  else pure none

/-- Whether the frame has a trailer, and the bytes to be un-stuffed. -/
def stuffedPart (raw : List UInt8) (sigOff : Nat) : Checked (Bool × List UInt8) := do
  let last ← unwrap raw.getLast?
  let stuffedEnd ← (if last = frameDelimiter then sub raw.length 1 else pure raw.length)
  let stuffed ← range raw sigOff stuffedEnd
  pure (last = frameDelimiter, stuffed)

/-- `Frame::parse` -/
def parse (raw : List UInt8) : Checked (Except ParseError Frame) :=
  if raw.length < minFrameLen then pure (.error (.tooShort raw.length minFrameLen))
  else do
    let start ← index raw 0
    if start ≠ frameDelimiter then pure (.error (.missingStart start))
    else
      let lenLo ← index raw 1
      let lenHi ← index raw 2
      let declaredLen := readU16 [lenLo, lenHi]
      let hdrCks ← index raw 3
      let expectedCks := frameDelimiter ^^^ lenLo ^^^ lenHi
      if hdrCks ≠ expectedCks then pure (.error (.headerChecksum hdrCks expectedCks))
      else
        let localBt ← btAddr (← range raw 4 10)
        let destBt ← btAddr (← range raw 10 16)
        let control := readU16 [← index raw 16, ← index raw 17]
        match ← l2SigOffset raw with
        | some sigOff =>
          if declaredLen.toNat ≠ raw.length then
            pure (.error (.lengthMismatch declaredLen raw.length))
          else
            let (hasTrailer, stuffed) ← stuffedPart raw sigOff
            match unstuff stuffed with
            | .error e => pure (.error e)
            | .ok unstuffed =>
              if hasTrailer then
                if unstuffed.length < 2 then pure (.error (.tooShort unstuffed.length 2))
                else
                  let payload ← rangeTo unstuffed (← sub unstuffed.length 2)
                  pure (.ok ⟨.l2Wrapped, localBt, destBt, control, payload⟩)
              else pure (.ok ⟨.l2Wrapped, localBt, destBt, control, unstuffed⟩)
        | none =>
          if declaredLen.toNat ≠ raw.length then
            pure (.error (.lengthMismatch declaredLen raw.length))
          else
            let payload ← (if raw.length > 18 then rangeFrom raw 18 else pure [])
            pure (.ok ⟨.l1Only, localBt, destBt, control, payload⟩)

theorem btAddr_ok {raw : List UInt8} {i : Nat} (h : i + 6 ≤ raw.length) :
    btAddr (slice raw i (i + 6)) = .ok (.ofSlice raw i h) :=
  dif_pos (by simp only [length_slice]; omega)

theorem signatureAt_ok {raw : List UInt8} {lo hi : Nat} (h : lo + 4 ≤ hi) (h' : hi ≤ raw.length) :
    signatureAt raw lo hi = .ok (decide (readU32 (slice raw lo hi) = btL2Signature)) := by
  rw [signatureAt, u32At_ok h h']
  rfl

theorem plainSignature_ok (raw : List UInt8) :
    plainSignature raw
      = .ok (decide (raw.length ≥ 22 ∧ readU32 (slice raw 18 22) = btL2Signature)) := by
  rw [plainSignature]
  by_cases hlen : raw.length ≥ 22
  · rw [if_pos hlen, signatureAt_ok (by omega) hlen]
    simp only [hlen, true_and]
  · rw [if_neg hlen, decide_eq_false fun h => hlen h.1]
    rfl

theorem separatedSignature_ok (raw : List UInt8) :
    separatedSignature raw
      = .ok (decide (raw.length ≥ 23 ∧ byteAt raw 18 = frameDelimiter ∧
          readU32 (slice raw 19 23) = btL2Signature)) := by
  rw [separatedSignature]
  by_cases hlen : raw.length ≥ 23
  · rw [if_pos hlen, index_ok (by omega), ok_bind]
    by_cases hsep : byteAt raw 18 = frameDelimiter
    · rw [if_pos hsep, signatureAt_ok (by omega) hlen]
      simp only [hlen, hsep, true_and]
    · rw [if_neg hsep, decide_eq_false fun h => hsep h.2.1]
      rfl
  · rw [if_neg hlen, decide_eq_false fun h => hlen h.1]
    rfl

theorem l2SigOffset_ok (raw : List UInt8) : l2SigOffset raw = .ok (HassSma.l2SigOffset raw) := by
  rw [l2SigOffset, HassSma.l2SigOffset, plainSignature_ok, ok_bind, separatedSignature_ok, ok_bind]
  simp only [decide_eq_true_eq, pure_eq, ← apply_ite]

theorem l2SigOffset_lt {raw : List UInt8} {sigOff : Nat}
    (h : HassSma.l2SigOffset raw = some sigOff) : sigOff < raw.length := by
  rw [HassSma.l2SigOffset] at h
  split at h
  · obtain rfl := Option.some.inj h
    omega
  · split at h
    · obtain rfl := Option.some.inj h
      omega
    · cases h

theorem slice_pair {d : List UInt8} {i : Nat} (h : i + 2 ≤ d.length) :
    slice d i (i + 2) = [byteAt d i, byteAt d (i + 1)] := by
  rw [slice, Nat.add_sub_cancel_left, List.drop_eq_getElem_cons (by omega),
    List.drop_eq_getElem_cons (by omega), byteAt_eq_getElem (by omega), byteAt_eq_getElem (by omega)]
  rfl

theorem stuffedPart_ok {raw : List UInt8} {sigOff : Nat} (h : sigOff < raw.length) :
    stuffedPart raw sigOff = .ok (decide (raw.getLast? = some frameDelimiter),
      slice raw sigOff (if raw.getLast? = some frameDelimiter then raw.length - 1
        else raw.length)) := by
  have hne : raw ≠ [] := List.ne_nil_of_length_pos (Nat.zero_lt_of_lt h)
  obtain ⟨last, hlast⟩ : ∃ last, raw.getLast? = some last :=
    ⟨raw.getLast hne, List.getLast?_eq_some_getLast hne⟩
  have hiff : (some last = some frameDelimiter) = (last = frameDelimiter) :=
    Option.some.injEq last frameDelimiter
  rw [stuffedPart, hlast]
  simp only [unwrap, ok_bind, hiff]
  by_cases htrailer : last = frameDelimiter
  · simp only [if_pos htrailer]
    rw [sub_ok (by omega), ok_bind, range_ok (by omega) (by omega)]
    rfl
  · simp only [if_neg htrailer]
    rw [pure_eq, ok_bind, range_ok (by omega) (Nat.le_refl _)]
    rfl

/-- **The parser of frames does not trap.**  The first four checks cover the header, and where the
    signature was found, it lies in front of the last byte. -/
theorem parse_ok (raw : List UInt8) : parse raw = .ok (Frame.parse raw) := by
  rw [parse, Frame.parse]
  by_cases hshort : raw.length < minFrameLen
  · rw [if_pos hshort, dif_pos hshort]
    rfl
  · rw [if_neg hshort, dif_neg hshort]
    have hlen : 18 ≤ raw.length := Nat.not_lt.mp hshort
    simp (disch := omega) only [index_ok, ok_bind]
    by_cases hstart : byteAt raw 0 ≠ frameDelimiter
    · rw [if_pos hstart, if_pos hstart]
      rfl
    · rw [if_neg hstart, if_neg hstart]
      split
      · rfl
      · simp (disch := omega) only [range_ok, btAddr_ok, ok_bind, l2SigOffset_ok]
        rw [slice_pair (show 16 + 2 ≤ raw.length from hlen)]
        cases hsig : HassSma.l2SigOffset raw with
        | some sigOff =>
          simp only [stuffedPart_ok (l2SigOffset_lt hsig), ok_bind, decide_eq_true_eq]
          split
          · rfl
          · cases unstuff (slice raw sigOff
              (if raw.getLast? = some frameDelimiter then raw.length - 1 else raw.length)) with
            | error e => rfl
            | ok unstuffed =>
              simp only
              split
              · by_cases hfcs : unstuffed.length < 2
                · rw [if_pos hfcs, if_pos hfcs]
                  rfl
                · rw [if_neg hfcs, if_neg hfcs, sub_ok (by omega), ok_bind, rangeTo_ok (by omega)]
                  rfl
              · rfl
        | none =>
          have hpayload : (if raw.length > 18 then rangeFrom raw 18 else pure [])
              = .ok (raw.drop 18) := by
            split
            · exact rangeFrom_ok hlen
            · rw [List.drop_of_length_le (by omega)]
              rfl
          simp only [hpayload, ok_bind]
          split <;> rfl

/-! ## The L2 header -/

def decodeL2 (data : List UInt8) : Checked (Option (L2Header × List UInt8)) :=
  if data.length < 28 then pure none
  else do
    let signature ← u32At data 0 4
    if signature ≠ btL2Signature then pure none
    else
      let longwords ← index data 4
      let ctrl ← index data 5
      let dstSusyId ← u16At data 6 8
      let dstSerial ← u32At data 8 12
      let ctrl2 ← u16At data 12 14
      let appSusyId ← u16At data 14 16
      let appSerial ← u32At data 16 20
      let errorCode ← u16At data 22 24
      let pktId ← u16At data 26 28
      let body ← rangeFrom data 28
      pure (some (⟨longwords, ctrl, dstSusyId, dstSerial, ctrl2, appSusyId, appSerial, errorCode,
        pktId &&& ~~~appPacketBit⟩, body))

theorem decodeL2_ok (data : List UInt8) : decodeL2 data = .ok (HassSma.decodeL2 data) := by
  rw [decodeL2, HassSma.decodeL2]
  by_cases hlen : data.length < 28
  · rw [if_pos hlen, if_pos hlen]
    rfl
  · rw [if_neg hlen, if_neg hlen]
    simp (disch := omega) only [u32At_ok, u16At_ok, index_ok, rangeFrom_ok, ok_bind, pure_eq]
    split <;> rfl

/-! ## The hello and the topology -/

def readHello (helloBytes : List UInt8) : Checked (Except SessionError (BtAddr × UInt8)) := do
  match ← parse helloBytes with
  | .error e => pure (.error (.parse e))
  | .ok hello =>
    if hello.control ≠ 0x0002 then pure (.error (.protocol "hello-ctrl"))
    else if helloBytes.length < 23 then pure (.error (.protocol "hello-short"))
    else
      let fw ← index helloBytes 19
      if fw < 4 then pure (.error (.firmwareTooOld fw))
      else
        let netId ← index helloBytes 22
        pure (.ok (hello.localBt, netId))

theorem readHello_ok (helloBytes : List UInt8) :
    readHello helloBytes = .ok (HassSma.readHello helloBytes) := by
  rw [readHello, HassSma.readHello, parse_ok, ok_bind]
  cases Frame.parse helloBytes with
  | error e => rfl
  | ok hello =>
    simp only
    split
    · rfl
    · by_cases hlen : helloBytes.length < 23
      · rw [if_pos hlen, if_pos hlen]
        rfl
      · rw [if_neg hlen, if_neg hlen]
        simp (disch := omega) only [index_ok, ok_bind, pure_eq]
        split <;> rfl

/-- One entry: the slice of the address is read from the high byte down. -/
def topologyEntry (payload : List UInt8) (ptr : Nat) : Checked String := do
  let mac ← range payload ptr (ptr + 6)
  let flagsLo ← index payload (ptr + 6)
  let flagsHi ← index payload (ptr + 7)
  let shown := [← index mac 5, ← index mac 4, ← index mac 3, ← index mac 2, ← index mac 1,
    ← index mac 0]
  pure (peerText shown flagsLo flagsHi)

def topologyPeers (topologyBytes : List UInt8) : Checked (List String) := do
  if topologyBytes.length > 18 then
    let payload ← rangeFrom topologyBytes 18
    loop (fun (s : Nat × List String) =>
      if s.1 + 8 ≤ payload.length then do
        let peer ← topologyEntry payload s.1
        pure (.inl (s.1 + 8, s.2 ++ [peer]))
      else pure (.inr s.2)) (payload.length + 1) (0, [])
  else pure []

theorem byteAt_slice {d : List UInt8} {i j k : Nat} (h : i + k < j) :
    byteAt (slice d i j) k = byteAt d (i + k) := by
  rw [byteAt, byteAt, slice, List.getD_eq_getElem?_getD, List.getD_eq_getElem?_getD,
    List.getElem?_take_of_lt (by omega), List.getElem?_drop]

theorem topologyEntry_ok {payload : List UInt8} {ptr : Nat} (h : ptr + 8 ≤ payload.length) :
    topologyEntry payload ptr = .ok (topologyPeer (slice payload ptr (ptr + 8))) := by
  have hmac : (slice payload ptr (ptr + 6)).length = 6 := by
    rw [length_slice]
    omega
  rw [topologyEntry, range_ok (by omega) (by omega), ok_bind, index_ok (by omega), ok_bind,
    index_ok (by omega), ok_bind, topologyPeer]
  simp (disch := omega) only [index_ok, ok_bind, byteAt_slice]
  rfl

theorem topologyPeers_ok (topologyBytes : List UInt8) :
    topologyPeers topologyBytes = .ok (HassSma.topologyPeers topologyBytes) := by
  rw [topologyPeers, HassSma.topologyPeers]
  by_cases hlong : topologyBytes.length > 18
  · rw [if_pos hlong, rangeFrom_ok (Nat.le_of_lt hlong), ok_bind]
    generalize topologyBytes.drop 18 = payload
    refine loop_eq (fun (s : Nat × List String) =>
      s.2 ++ (sizedRecords 8 (payload.drop s.1)).map topologyPeer)
      (fun (s : Nat × List String) => payload.length - s.1) ?_ (by omega)
    rintro ⟨ptr, peers⟩
    have hlen : (payload.drop ptr).length = payload.length - ptr := List.length_drop
    by_cases hmore : ptr + 8 ≤ payload.length
    · right
      refine ⟨(ptr + 8, peers ++ [topologyPeer (slice payload ptr (ptr + 8))]), ?_, ?_, ?_⟩
      · simp only [if_pos hmore, topologyEntry_ok hmore]
        rfl
      · simp only [sizedRecords_cons (show 0 < 8 by decide)
          (show 8 ≤ (payload.drop ptr).length by omega), List.map_cons, List.drop_drop, slice_add,
          List.append_assoc, List.singleton_append]
      · simp only
        omega
    · left
      simp only [if_neg hmore, sizedRecords_nil (show (payload.drop ptr).length < 8 by omega)]
      rw [List.map_nil, List.append_nil]
      rfl
  · rw [if_neg hlong, List.drop_of_length_le (Nat.not_lt.mp hlong), sizedRecords_nil (by decide)]
    rfl

section

variable {T : Type} [Transport T]

/-- The handshake up to the topology, which may trap where it reads the two frames; `next` is what it
    does behind them. -/
def helloSteps (next : BtAddr → SessionM T Unit) : ExceptT Trap (SessionM T) Unit := do
  let handshaking : SessionM T Unit := modify fun s => { s with state := .handshaking }
  handshaking
  let _ ← (Session.sendFrame Session.verWire : SessionM T Nat)
  let helloBytes ← (Session.recvFrame "hello" : SessionM T (List UInt8))
  let hello ← readHello helloBytes
  let (inverterBt, netId) ← (liftExcept hello : SessionM T (BtAddr × UInt8))
  let _ ← (Session.sendFrame (Session.echoWire inverterBt netId) : SessionM T Nat)
  let topologyBytes ← (Session.recvUntilL1Ctrl 0x0005 "topology" : SessionM T (List UInt8))
  -- the peers go into the log
  let _ ← topologyPeers topologyBytes
  next inverterBt

def handshakeAndLogon (nowEpoch : UInt32) : ExceptT Trap (SessionM T) Unit :=
  helloSteps (Session.initSteps nowEpoch)

omit [Transport T] in
theorem liftM_ok {α : Type} (a : α) :
    (liftM (.ok a : Checked α) : ExceptT Trap (SessionM T) α) = pure a := rfl

/-- **The handshake does not trap** on a hello or on a topology, and goes on as the model does. -/
theorem helloSteps_ok (next : BtAddr → SessionM T Unit) :
    helloSteps next = liftM (Session.helloSteps next) := by
  rw [Session.helloSteps_eq, helloSteps]
  simp only [readHello_ok, topologyPeers_ok, liftM_bind, liftM_ok, pure_bind]

end

/-! ## The receive path -/

/-- **The receive path never traps**, whatever the peer sends, and gives what the model without checks
    gives: the reader, in any run of pushes and pops; the parser of frames and the L2 header, on any
    bytes; the handshake, on any transport; and every parser, on any body. -/
theorem receive_never_traps :
    (∀ calls, run .new calls = .ok (FrameReader.new.run calls)) ∧
      (∀ raw, parse raw = .ok (Frame.parse raw)) ∧
      (∀ payload, decodeL2 payload = .ok (HassSma.decodeL2 payload)) ∧
      (∀ (T : Type) [Transport T] (nowEpoch : UInt32),
        (handshakeAndLogon nowEpoch : ExceptT Trap (SessionM T) Unit)
          = liftM (Session.handshakeAndLogon nowEpoch : SessionM T Unit)) ∧
      ∀ body, ParsersNeverTrap body := by
  refine ⟨?_, parse_ok, decodeL2_ok, ?_, parsers_never_trap⟩
  · intro calls
    exact run_ok calls smaFraming.waiting_nil []
  · intro T _ nowEpoch
    exact helloSteps_ok (Session.initSteps nowEpoch)

end Literal

end HassSma
