/-
  Layer-2 packets (`sma-bt-protocol/src/packet.rs`, `auth.rs`, `commands.rs`).

  An L2 packet is the signature, a 24-byte header and a command body.  The header carries the ids of
  both parties, a status word and the packet id, which is written with its top bit set and read
  with that bit cleared.  So a packet is read back as it was written, but for the top bit of its id
  (`decodeL2_encodeL2`), and an id survives the trip exactly when it is below `2^15`
  (`wirePktId_eq_iff`).  The other way round three things are lost in reading: the copy of `ctrl2`,
  the reserved word and that top bit.  Where they are what the encoder writes, a packet that is read
  is written back byte for byte (`encodeL2_of_decodeL2`).

  The second half is the packets the client sends: init, logoff, logon, range queries, event-log
  queries, each an `encodeL2` of its header and its command words.
-/
import HassSma.Protocol.Frame

namespace HassSma

open Bytes

/-! ## Constants -/

/-- Wildcards for "any device". -/
def anySusyId : UInt16 := 0xFFFF
def anySerial : UInt32 := 0xFFFFFFFF

/-- The SUSyID the client presents itself with. -/
def appSusyId : UInt16 := 125

/-- The bit that marks packets of application origin. -/
def appPacketBit : UInt16 := 0x8000

/-! ## The header -/

/-- The fields of the L2 header that vary per command. -/
structure L2Header where
  longwords : UInt8
  ctrl : UInt8
  dstSusyId : UInt16
  dstSerial : UInt32
  ctrl2 : UInt16
  appSusyId : UInt16
  appSerial : UInt32
  errorCode : UInt16
  pktId : UInt16
  deriving DecidableEq, Repr

/-- A complete L2 packet. -/
def encodeL2 (header : L2Header) (body : List UInt8) : List UInt8 :=
  btL2SigBytes ++ [header.longwords, header.ctrl] ++ writeU16 header.dstSusyId
    ++ writeU32 header.dstSerial ++ writeU16 header.ctrl2 ++ writeU16 header.appSusyId
    ++ writeU32 header.appSerial ++ writeU16 header.ctrl2 ++ writeU16 header.errorCode ++ [0, 0]
    ++ writeU16 (header.pktId ||| appPacketBit) ++ body

/-- Header and command body of a received payload. -/
def decodeL2 (data : List UInt8) : Option (L2Header × List UInt8) :=
  if data.length < 28 then none
  else if readU32 (slice data 0 4) ≠ btL2Signature then none
  else
    some ({ longwords := byteAt data 4
            ctrl := byteAt data 5
            dstSusyId := readU16 (slice data 6 8)
            dstSerial := readU32 (slice data 8 12)
            ctrl2 := readU16 (slice data 12 14)
            appSusyId := readU16 (slice data 14 16)
            appSerial := readU32 (slice data 16 20)
            errorCode := readU16 (slice data 22 24)
            pktId := readU16 (slice data 26 28) &&& ~~~appPacketBit }, data.drop 28)

/-- A packet id as it is read back. -/
def wirePktId (id : UInt16) : UInt16 := id &&& ~~~appPacketBit

/-- Only the low 15 bits of an id go over the wire. -/
theorem wirePktId_toNat (id : UInt16) : (wirePktId id).toNat = id.toNat % 32768 := by
  rw [wirePktId, UInt16.toNat_and, show (~~~appPacketBit).toNat = 2 ^ 15 - 1 from rfl,
    Nat.and_two_pow_sub_one_eq_mod]

/-- **An id survives the wire exactly when it fits 15 bits.** -/
theorem wirePktId_eq_iff (id : UInt16) : wirePktId id = id ↔ id.toNat < 32768 := by
  rw [← UInt16.toNat_inj, wirePktId_toNat]
  omega

/-- The top bit is put in on the way out and taken off on the way in. -/
theorem wirePktId_or (id : UInt16) : wirePktId (id ||| appPacketBit) = wirePktId id := by
  have hbit : appPacketBit.toNat % 2 ^ 15 = 0 := rfl
  rw [← UInt16.toNat_inj, wirePktId_toNat, wirePktId_toNat, UInt16.toNat_or,
    show 32768 = 2 ^ 15 from rfl, Nat.or_mod_two_pow, hbit, Nat.or_zero]

/-! ## Round trip -/

@[simp] theorem length_encodeL2 (header : L2Header) (body : List UInt8) :
    (encodeL2 header body).length = 28 + body.length := by
  simp only [encodeL2, List.length_append, length_btL2SigBytes, length_writeU16, length_writeU32,
    List.length_cons, List.length_nil]

theorem sig_prefix_encodeL2 (header : L2Header) (body : List UInt8) :
    btL2SigBytes <+: encodeL2 header body := by
  simp only [encodeL2, List.append_assoc]
  exact List.prefix_append _ _

/-- **A packet is read back as it was written**, its id without the top bit. -/
theorem decodeL2_encodeL2 (header : L2Header) (body : List UInt8) :
    decodeL2 (encodeL2 header body)
      = some ({ header with pktId := wirePktId header.pktId }, body) := by
  have hlen : ¬ (encodeL2 header body).length < 28 := by
    rw [length_encodeL2]
    exact Nat.not_lt.mpr (Nat.le_add_right 28 _)
  rw [decodeL2, if_neg hlen]
  -- byte by byte, so that each field is found at its offset
  simp only [encodeL2, btL2SigBytes, writeU16_eq, writeU32_eq, List.cons_append, List.nil_append,
    slice, byteAt, List.drop_succ_cons, List.drop_zero, List.take_succ_cons, List.take_zero,
    List.getD_cons_succ, List.getD_cons_zero, Nat.reduceSub]
  -- and back to words
  simp only [← writeU16_eq, ← writeU32_eq, readU16_writeU16, readU32_writeU32]
  rw [if_neg (not_not_intro rfl), ← wirePktId, wirePktId_or]

/-- With its top bit back in place, an id that came with it is what stood on the wire. -/
theorem wirePktId_or_of_testBit {word : UInt16} (h : word.toNat.testBit 15 = true) :
    wirePktId word ||| appPacketBit = word := by
  have hlt : word.toNat < 2 ^ 16 := word.toNat_lt
  rw [← UInt16.toNat_inj, UInt16.toNat_or, wirePktId_toNat, show appPacketBit.toNat = 2 ^ 15 from rfl,
    show 32768 = 2 ^ 15 from rfl]
  apply Nat.eq_of_testBit_eq
  intro i
  rw [Nat.testBit_or, Nat.testBit_mod_two_pow, Nat.testBit_two_pow]
  rcases Nat.lt_trichotomy i 15 with hi | rfl | hi
  · simp [hi, show 15 ≠ i by omega]
  · simp [h]
  · have hhigh : word.toNat.testBit i = false :=
      Nat.testBit_lt_two_pow (hlt.trans_le (Nat.pow_le_pow_right (by decide) hi))
    simp [hhigh, show 15 ≠ i by omega]

/-- What was read as an L2 packet, field by field. -/
theorem decodeL2_eq_some_iff {data body : List UInt8} {header : L2Header} :
    decodeL2 data = some (header, body) ↔
      28 ≤ data.length ∧ readU32 (slice data 0 4) = btL2Signature ∧
      header =
        { longwords := byteAt data 4
          ctrl := byteAt data 5
          dstSusyId := readU16 (slice data 6 8)
          dstSerial := readU32 (slice data 8 12)
          ctrl2 := readU16 (slice data 12 14)
          appSusyId := readU16 (slice data 14 16)
          appSerial := readU32 (slice data 16 20)
          errorCode := readU16 (slice data 22 24)
          pktId := wirePktId (readU16 (slice data 26 28)) } ∧
      body = data.drop 28 := by
  rw [decodeL2]
  by_cases hlen : data.length < 28
  · rw [if_pos hlen]
    constructor
    · intro h
      cases h
    · rintro ⟨hge, -⟩
      omega
  · rw [if_neg hlen]
    by_cases hsig : readU32 (slice data 0 4) = btL2Signature
    · rw [if_neg (not_not_intro hsig), Option.some.injEq, Prod.mk.injEq]
      constructor
      · rintro ⟨rfl, rfl⟩
        exact ⟨Nat.not_lt.mp hlen, hsig, rfl, rfl⟩
      · rintro ⟨-, -, rfl, rfl⟩
        exact ⟨rfl, rfl⟩
    · rw [if_pos hsig]
      constructor
      · intro h
        cases h
      · rintro ⟨-, hsig', -⟩
        exact absurd hsig' hsig

/-- **A packet is written back as it was read**, if what reading drops is what writing puts there. -/
theorem encodeL2_of_decodeL2 {data body : List UInt8} {header : L2Header}
    (h : decodeL2 data = some (header, body)) (hrepeat : slice data 20 22 = slice data 12 14)
    (hzero : slice data 24 26 = [0, 0])
    (hbit : (readU16 (slice data 26 28)).toNat.testBit 15 = true) :
    encodeL2 header body = data := by
  obtain ⟨hlen, hsig, rfl, rfl⟩ := decodeL2_eq_some_iff.mp h
  have hword16 : ∀ i, i + 2 ≤ 28 → writeU16 (readU16 (slice data i (i + 2))) = slice data i (i + 2) :=
    fun i hi => writeU16_readU16 (by rw [length_slice]; omega)
  have hword32 : ∀ i, i + 4 ≤ 28 → writeU32 (readU32 (slice data i (i + 4))) = slice data i (i + 4) :=
    fun i hi => writeU32_readU32 (by rw [length_slice]; omega)
  have hctrl : [byteAt data 4, byteAt data 5] = slice data 4 6 := by
    rw [← slice_append_slice data (show 4 ≤ 5 by decide) (show 5 ≤ 6 by decide),
      slice_byte (by omega), slice_byte (by omega)]
    rfl
  have hfront : slice data 0 28 ++ data.drop 28 = data := by
    rw [slice, List.drop_zero]
    exact List.take_append_drop 28 data
  rw [encodeL2, btL2SigBytes, ← hsig, hctrl, ← hzero, wirePktId_or_of_testBit hbit,
    hword32 0 (by decide), hword16 6 (by decide), hword32 8 (by decide), hword16 12 (by decide),
    hword16 14 (by decide), hword32 16 (by decide), hword16 22 (by decide), hword16 26 (by decide)]
  -- the second `ctrl2` is the copy, and then each slice ends where the next one starts
  nth_rewrite 2 [← hrepeat]
  simp only [slice_append_slice data, Nat.reduceLeDiff, Nat.reduceAdd]
  exact hfront

/-- **L2 packets round-trip in both directions**: written and read, a packet keeps everything but the
    top bit of its id; read and written, it is the same string wherever the parts that reading drops
    are the ones that writing puts there. -/
theorem l2_round_trip :
    (∀ header body, decodeL2 (encodeL2 header body)
      = some ({ header with pktId := header.pktId &&& 0x7FFF }, body)) ∧
    (∀ data header body, decodeL2 data = some (header, body) →
      slice data 20 22 = slice data 12 14 → slice data 24 26 = [0, 0] →
      (readU16 (slice data 26 28)).toNat.testBit 15 = true → encodeL2 header body = data) := by
  constructor
  · intro header body
    exact decodeL2_encodeL2 header body
  · intro data header body h hrepeat hzero hbit
    exact encodeL2_of_decodeL2 h hrepeat hzero hbit

theorem l2_round_trip_packet :
    encodeL2 ⟨0x09, 0xA0, 1, 2, 3, 4, 5, 6, 7⟩ [8, 9]
      = [0xFF, 0x03, 0x60, 0x65, 0x09, 0xA0, 1, 0, 2, 0, 0, 0, 3, 0, 4, 0, 5, 0, 0, 0, 3, 0, 6, 0,
        0, 0, 7, 0x80, 8, 9] :=
  l2_round_trip.2 _ _ _ (by decide) (by decide) (by decide) (by decide)

namespace L2Header

/-! ## The headers the client sends -/

def logon (pktId : UInt16) (appSerial : UInt32) : L2Header :=
  ⟨0x0E, 0xA0, anySusyId, anySerial, 0x0100, HassSma.appSusyId, appSerial, 0, pktId⟩

def query (pktId : UInt16) (appSerial : UInt32) (dstSusyId : UInt16) (dstSerial : UInt32) :
    L2Header :=
  ⟨0x09, 0xA0, dstSusyId, dstSerial, 0x0000, HassSma.appSusyId, appSerial, 0, pktId⟩

def init (pktId : UInt16) (appSerial : UInt32) : L2Header :=
  ⟨0x09, 0xA0, anySusyId, anySerial, 0x0000, HassSma.appSusyId, appSerial, 0, pktId⟩

def eventLogQuery (pktId : UInt16) (appSerial : UInt32) (dstSusyId : UInt16)
    (dstSerial : UInt32) : L2Header :=
  ⟨0x09, 0xE0, dstSusyId, dstSerial, 0x0100, HassSma.appSusyId, appSerial, 0, pktId⟩

def logoff (pktId : UInt16) (appSerial : UInt32) : L2Header :=
  ⟨0x08, 0xA0, anySusyId, anySerial, 0x0300, HassSma.appSusyId, appSerial, 0, pktId⟩

end L2Header

/-! ## Logon packets -/

inductive UserGroup where
  | user
  | installer
  deriving DecidableEq, Repr

namespace UserGroup

/-- The addition key of the password obfuscation. -/
def key : UserGroup → UInt8
  | user => 0x88
  | installer => 0xBB

/-- The group as it stands in the logon body. -/
def code : UserGroup → UInt32
  | user => 0x00000007
  | installer => 0x0000000A

end UserGroup

/-- Twelve bytes: the password's with the key added, then the key. -/
def encodePassword (pwd : String) (group : UserGroup) : List UInt8 :=
  let shifted := (pwd.toUTF8.toList.take 12).map (· + group.key)
  shifted ++ List.replicate (12 - shifted.length) group.key

@[simp] theorem length_encodePassword (pwd : String) (group : UserGroup) :
    (encodePassword pwd group).length = 12 := by
  have hle : ((pwd.toUTF8.toList.take 12).map (· + group.key)).length ≤ 12 := by
    rw [List.length_map]
    exact List.length_take_le 12 _
  rw [encodePassword, List.length_append, List.length_replicate]
  omega

def buildInitBody (pktId : UInt16) (appSerial : UInt32) : List UInt8 :=
  encodeL2 (.init pktId appSerial) (writeU32 0x00000200 ++ [0, 0, 0, 0] ++ [0, 0, 0, 0])

def buildLogoffBody (pktId : UInt16) (appSerial : UInt32) : List UInt8 :=
  encodeL2 (.logoff pktId appSerial) (writeU32 0xFFFD010E ++ writeU32 0xFFFFFFFF)

def buildLogonBody (pwd : String) (group : UserGroup) (pktId : UInt16) (appSerial nowEpoch : UInt32) :
    List UInt8 :=
  encodeL2 (.logon pktId appSerial)
    (writeU32 0xFFFD040C ++ writeU32 group.code ++ writeU32 0x00000384 ++ writeU32 nowEpoch
      ++ [0, 0, 0, 0] ++ encodePassword pwd group)

/-! ## Query packets -/

inductive QueryKind where
  | spotAcTotalPower | spotAcPower | spotAcVoltage | spotGridFrequency | spotDcPower
  | spotDcVoltage | energyProduction | operationTime | inverterTemperature | deviceStatus
  | gridRelayStatus | typeLabel | softwareVersion | batteryChargeStatus | batteryInfo
  | meteringGridTotalW | spotCosPhi | maxFeedInPower | nominalAcPower
  deriving DecidableEq, Repr

/-- Command word, first and last LRI. -/
def QueryKind.opcode : QueryKind → UInt32 × UInt32 × UInt32
  | spotAcTotalPower => (0x51000200, 0x00263F00, 0x00263FFF)
  | spotAcPower => (0x51000200, 0x00464000, 0x004642FF)
  | spotAcVoltage => (0x51000200, 0x00464800, 0x004655FF)
  | spotGridFrequency => (0x51000200, 0x00465700, 0x004657FF)
  | spotDcPower => (0x53800200, 0x00251E00, 0x00251EFF)
  | spotDcVoltage => (0x53800200, 0x00451F00, 0x004521FF)
  | energyProduction => (0x54000200, 0x00260100, 0x002622FF)
  | operationTime => (0x54000200, 0x00462E00, 0x00462FFF)
  | inverterTemperature => (0x52000200, 0x00237700, 0x002377FF)
  | deviceStatus => (0x51800200, 0x00214800, 0x002148FF)
  | gridRelayStatus => (0x51800200, 0x00416400, 0x004164FF)
  | typeLabel => (0x58000200, 0x00821E00, 0x008220FF)
  | softwareVersion => (0x58000200, 0x00823400, 0x008234FF)
  | batteryChargeStatus => (0x51000200, 0x00295A00, 0x00295AFF)
  | batteryInfo => (0x51000200, 0x00491E00, 0x00495DFF)
  | meteringGridTotalW => (0x51000200, 0x00463600, 0x00463669)
  | spotCosPhi => (0x51000200, 0x00237400, 0x004748FF)
  | maxFeedInPower => (0x51000200, 0x00411F00, 0x00411F19)
  | nominalAcPower => (0x51000200, 0x00411E00, 0x00411E19)

def buildQueryBody (kind : QueryKind) (pktId : UInt16) (appSerial : UInt32) (dstSusyId : UInt16)
    (dstSerial : UInt32) : List UInt8 :=
  encodeL2 (.query pktId appSerial dstSusyId dstSerial)
    (writeU32 kind.opcode.1 ++ writeU32 kind.opcode.2.1 ++ writeU32 kind.opcode.2.2)

/-- The command word of an event-log query. -/
def eventLogCommand : UInt32 := 0x70100200

def buildEventLogBody (pktId : UInt16) (appSerial : UInt32) (dstSusyId : UInt16)
    (dstSerial startUnix endUnix : UInt32) : List UInt8 :=
  encodeL2 (.eventLogQuery pktId appSerial dstSusyId dstSerial)
    (writeU32 eventLogCommand ++ writeU32 startUnix ++ writeU32 endUnix)

end HassSma
