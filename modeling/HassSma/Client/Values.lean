/-
  Typed readings out of reply bodies (`inverter-client/src/values.rs`).

  A reply body is a 12-byte echo of the request and records.  Spot values come in records of 28 bytes,
  the last one possibly cut to 20, counters in records of 16.  A record starts with its code, whose
  middle bytes are the LRI; the parsers pick records by LRI and read a value slot, where some
  bit patterns stand for "no reading".

  The source holds scaled readings as `f32`.  The model keeps the integer and the divisor it is
  divided by (`Scaled`), so that nothing here depends on rounding.
-/
import HassSma.Client.EventLog

namespace HassSma

open Bytes

/-- An integer reading to be divided by `den`. -/
structure Scaled where
  raw : Int
  den : Nat
  deriving DecidableEq, Repr

/-! ## LRIs -/

namespace Lri

def invStatus : UInt32 := 0x00214800
def invGridRelay : UInt32 := 0x00416400
def swVersion : UInt32 := 0x00823400
def invTemperature : UInt32 := 0x00237700
def dcMsWatt : UInt32 := 0x00251E00
def dcMsVol : UInt32 := 0x00451F00
def dcMsAmp : UInt32 := 0x00452100
def spotETotal : UInt32 := 0x00260100
def spotEToday : UInt32 := 0x00262200
def spotOperTm : UInt32 := 0x00462E00
def spotFeedTm : UInt32 := 0x00462F00
def spotPacTotal : UInt32 := 0x00263F00
def gridMsWPhsA : UInt32 := 0x00464000
def gridMsWPhsB : UInt32 := 0x00464100
def gridMsWPhsC : UInt32 := 0x00464200
def gridMsVphsA : UInt32 := 0x00464800
def gridMsVphsB : UInt32 := 0x00464900
def gridMsVphsC : UInt32 := 0x00464A00
def gridMsAphsA : UInt32 := 0x00465000
def gridMsAphsB : UInt32 := 0x00465100
def gridMsAphsC : UInt32 := 0x00465200
def gridFrequency : UInt32 := 0x00465700

end Lri

/-! ## Records -/

/-- The records behind the 12-byte prefix. -/
def recordsRegion (body : List UInt8) : List UInt8 :=
  if 12 ≤ body.length then body.drop 12 else []

/-- The middle 16 bits of a record's code. -/
def recordLri (code : UInt32) : UInt32 := code &&& 0x00FFFF00

/-- "No reading" in a signed slot, an unsigned slot and a counter. -/
def i32Nan : UInt32 := 0x80000000
def u32Nan : UInt32 := 0xFFFFFFFF
def u64Nan : UInt64 := 0x8000000000000000

/-- Spot records: 28 bytes each, 20 where fewer than 28 are left. -/
def spotRecords (region : List UInt8) : List (List UInt8) :=
  if region.length < 20 then []
  else
    let stride := if 28 ≤ region.length then 28 else 20
    region.take stride :: spotRecords (region.drop stride)
termination_by region.length
decreasing_by
  simp only [List.length_drop]
  split <;> omega

/-- Records of a fixed size. -/
def sizedRecords (size : Nat) (region : List UInt8) : List (List UInt8) :=
  if size = 0 ∨ region.length < size then []
  else region.take size :: sizedRecords size (region.drop size)
termination_by region.length
decreasing_by
  simp only [List.length_drop]
  omega

theorem spotRecords_nil {region : List UInt8} (h : region.length < 20) : spotRecords region = [] := by
  rw [spotRecords, if_pos h]

theorem spotRecords_cons {region : List UInt8} (h : 20 ≤ region.length) :
    spotRecords region = region.take (if 28 ≤ region.length then 28 else 20)
      :: spotRecords (region.drop (if 28 ≤ region.length then 28 else 20)) := by
  rw [spotRecords, if_neg (Nat.not_lt.mpr h)]

theorem sizedRecords_nil {size : Nat} {region : List UInt8} (h : region.length < size) :
    sizedRecords size region = [] := by
  rw [sizedRecords, if_pos (.inr h)]

theorem sizedRecords_cons {size : Nat} (hsize : 0 < size) {region : List UInt8}
    (h : size ≤ region.length) :
    sizedRecords size region = region.take size :: sizedRecords size (region.drop size) := by
  rw [sizedRecords, if_neg (by omega)]

/-- Visit the spot records with their LRI and time. -/
def forEach28Record {α : Type} (body : List UInt8) (f : α → UInt32 → UInt32 → List UInt8 → α)
    (start : α) : α :=
  (spotRecords (recordsRegion body)).foldl
    (fun out rec => f out (recordLri (readU32 (slice rec 0 4))) (readU32 (slice rec 4 8)) rec) start

/-- Visit the counter records with their LRI and time. -/
def forEach16Record {α : Type} (body : List UInt8) (f : α → UInt32 → UInt32 → List UInt8 → α)
    (start : α) : α :=
  (sizedRecords 16 (recordsRegion body)).foldl
    (fun out rec => f out (recordLri (readU32 (slice rec 0 4))) (readU32 (slice rec 4 8)) rec) start

/-! ## Value slots -/

/-- The signed value at offset 16. -/
def i32Value28 (rec : List UInt8) : Option Int :=
  if rec.length < 20 then none
  else if readU32 (slice rec 16 20) = i32Nan then none
  else some (readU32 (slice rec 16 20)).toInt32.toInt

/-- The unsigned value at offset 16. -/
def u32Value28 (rec : List UInt8) : Option UInt32 :=
  if rec.length < 20 then none
  else if readU32 (slice rec 16 20) = u32Nan ∨ readU32 (slice rec 16 20) = i32Nan then none
  else some (readU32 (slice rec 16 20))

/-- The counter at offset 8. -/
def u64Value16 (rec : List UInt8) : Option UInt64 :=
  if rec.length < 16 then none
  else if readU64 (slice rec 8 16) = u64Nan ∨ readU64 (slice rec 8 16) = 0xFFFFFFFFFFFFFFFF then none
  else some (readU64 (slice rec 8 16))

/-- The signed value at offset 16, over `den`. -/
def scaledValue28 (den : Nat) (rec : List UInt8) : Option Scaled :=
  (i32Value28 rec).map fun v => ⟨v, den⟩

/-! ## Parsers -/

structure InverterReadings where
  pacTotalW : Option Int
  timestamp : Option UInt32
  deriving DecidableEq, Repr

def parseSpotAcTotalPower (body : List UInt8) : InverterReadings :=
  forEach28Record body (fun out lri dt rec =>
    if lri = Lri.spotPacTotal then { out with pacTotalW := i32Value28 rec, timestamp := some dt }
    else out) ⟨none, none⟩

/-- Energy of today and of the whole life, in Wh. -/
def parseEnergyProduction (body : List UInt8) : Option UInt64 × Option UInt64 :=
  forEach16Record body (fun out lri _ rec =>
    if lri = Lri.spotEToday then (u64Value16 rec, out.2)
    else if lri = Lri.spotETotal then (out.1, u64Value16 rec)
    else out) (none, none)

def parseInverterTemperature (body : List UInt8) : Option Scaled :=
  forEach28Record body (fun out lri _ rec =>
    if lri = Lri.invTemperature then scaledValue28 100 rec else out) none

def parseGridFrequency (body : List UInt8) : Option Scaled :=
  forEach28Record body (fun out lri _ rec =>
    if lri = Lri.gridFrequency then (u32Value28 rec).map fun v => ⟨v.toNat, 100⟩ else out) none

/-- The magnitude of the power factor, from the first record that has one. -/
def parseCosphi (body : List UInt8) : Option Scaled :=
  forEach28Record body (fun out lri _ rec =>
    if ((0x00237400 ≤ lri ∧ lri ≤ 0x002374FF) ∨ (0x00474800 ≤ lri ∧ lri ≤ 0x004748FF))
        ∧ out = none then
      (i32Value28 rec).map fun v => ⟨v.natAbs, 1000⟩
    else out) none

/-- The first value that is neither zero nor "no reading", among the five slots of a record whose LRI
    is in the range. -/
def parseSingleWattsRecord (body : List UInt8) (lriFirst lriLast : UInt32) : Option UInt32 :=
  forEach28Record body (fun out lri _ rec =>
    if lriFirst ≤ lri ∧ lri ≤ lriLast ∧ out = none then
      [16, 8, 12, 20, 24].findSome? fun off =>
        if rec.length < off + 4 then none
        else
          let v := readU32 (slice rec off (off + 4))
          if v ≠ 0 ∧ v ≠ i32Nan ∧ v ≠ u32Nan then some v else none
    else out) none

/-- The selected tag among the attribute slots of one type-label record. -/
def selectedTag (rec : List UInt8) : List Nat → Option UInt32
  | [] => none
  | off :: offs =>
    let attr := readU32 (slice rec off (off + 4))
    let tag := attr &&& 0x00FFFFFF
    if tag = 0x00FFFFFE then none
    else if attr >>> 24 = 1 then some tag
    else selectedTag rec offs

/-- The tag of the device's model. -/
def parseTypeLabelRaw (body : List UInt8) : Option UInt32 :=
  (sizedRecords 40 (recordsRegion body)).findSome? fun rec =>
    let lri := recordLri (readU32 (slice rec 0 4))
    if lri = 0x00821E00 ∨ lri = 0x00821F00 ∨ lri = 0x00822000 then
      selectedTag rec [8, 12, 16, 20, 24, 28, 32, 36]
    else none

/-- The model behind a type-label tag. -/
def typeLabelText (tag : UInt32) : Option String :=
  match tag.toNat with
  | 9070 => some "STP 17000TL-10"
  | 9071 => some "SB 2000HF-30"
  | 9072 => some "SB 2500HF-30"
  | 9073 => some "SB 3000HF-30"
  | 9074 => some "SB 3000TL-21"
  | 9075 => some "SB 4000TL-21"
  | 9076 => some "SB 5000TL-21"
  | 9077 => some "SB 2000HFUS-30"
  | 9078 => some "SB 2500HFUS-30"
  | 9079 => some "SB 3000HFUS-30"
  | 9080 => some "SB 8000TLUS"
  | 9081 => some "SB 9000TLUS"
  | 9082 => some "SB 10000TLUS"
  | 9084 => some "WB 3600TL-20"
  | 9085 => some "WB 5000TL-20"
  | 9086 => some "SB 3800US-10"
  | _ => none

structure AcPerPhase where
  pac1W : Option Int
  pac2W : Option Int
  pac3W : Option Int
  timestamp : Option UInt32
  deriving DecidableEq, Repr

def parseSpotAcPower (body : List UInt8) : AcPerPhase :=
  forEach28Record body (fun out lri dt rec =>
    if lri = Lri.gridMsWPhsA then { out with pac1W := i32Value28 rec, timestamp := some dt }
    else if lri = Lri.gridMsWPhsB then { out with pac2W := i32Value28 rec }
    else if lri = Lri.gridMsWPhsC then { out with pac3W := i32Value28 rec }
    else out) ⟨none, none, none, none⟩

structure AcVoltageCurrent where
  uac1V : Option Scaled
  uac2V : Option Scaled
  uac3V : Option Scaled
  iac1A : Option Scaled
  iac2A : Option Scaled
  iac3A : Option Scaled
  deriving DecidableEq, Repr

def parseSpotAcVoltage (body : List UInt8) : AcVoltageCurrent :=
  forEach28Record body (fun out lri _ rec =>
    if lri = Lri.gridMsVphsA then { out with uac1V := scaledValue28 100 rec }
    else if lri = Lri.gridMsVphsB then { out with uac2V := scaledValue28 100 rec }
    else if lri = Lri.gridMsVphsC then { out with uac3V := scaledValue28 100 rec }
    else if lri = Lri.gridMsAphsA then { out with iac1A := scaledValue28 1000 rec }
    else if lri = Lri.gridMsAphsB then { out with iac2A := scaledValue28 1000 rec }
    else if lri = Lri.gridMsAphsC then { out with iac3A := scaledValue28 1000 rec }
    else out) ⟨none, none, none, none, none, none⟩

structure DcPerString where
  pdc1W : Option Int
  pdc2W : Option Int
  udc1V : Option Scaled
  udc2V : Option Scaled
  idc1A : Option Scaled
  idc2A : Option Scaled
  deriving DecidableEq, Repr

/-- The DC parser has a record loop of its own: it needs the low byte of the code, which numbers the
    string. -/
def parseDcBlock (body : List UInt8) : DcPerString :=
  (spotRecords (recordsRegion body)).foldl (fun out rec =>
    let code := readU32 (slice rec 0 4)
    let lri := recordLri code
    let cls := code &&& 0xFF
    if lri = Lri.dcMsWatt ∧ cls = 1 then { out with pdc1W := i32Value28 rec }
    else if lri = Lri.dcMsWatt ∧ cls = 2 then { out with pdc2W := i32Value28 rec }
    else if lri = Lri.dcMsVol ∧ cls = 1 then { out with udc1V := scaledValue28 100 rec }
    else if lri = Lri.dcMsVol ∧ cls = 2 then { out with udc2V := scaledValue28 100 rec }
    else if lri = Lri.dcMsAmp ∧ cls = 1 then { out with idc1A := scaledValue28 1000 rec }
    else if lri = Lri.dcMsAmp ∧ cls = 2 then { out with idc2A := scaledValue28 1000 rec }
    else out) ⟨none, none, none, none, none, none⟩

def parseSpotDcPower (body : List UInt8) : DcPerString := parseDcBlock body

def parseSpotDcVoltage (body : List UInt8) : DcPerString := parseDcBlock body

structure OperationTime where
  totalOpTimeS : Option UInt64
  feedInTimeS : Option UInt64
  deriving DecidableEq, Repr

def parseOperationTime (body : List UInt8) : OperationTime :=
  forEach16Record body (fun out lri _ rec =>
    if lri = Lri.spotOperTm then { out with totalOpTimeS := u64Value16 rec }
    else if lri = Lri.spotFeedTm then { out with feedInTimeS := u64Value16 rec }
    else out) ⟨none, none⟩

/-- The status tag of a record: that of the first slot with the selected bit, else that of the first
    slot with a value. -/
def statusTag (rec : List UInt8) : Option UInt32 :=
  let slots := ([8, 12, 16, 20].map fun off => readU32 (slice rec off (off + 4))).filter
    fun v => v ≠ 0 ∧ v ≠ u32Nan
  ((slots.find? fun v => v &&& 0x01000000 ≠ 0).or slots.head?).map (· &&& 0x00FFFFFF)

def parseDeviceStatus (body : List UInt8) : Option UInt32 :=
  forEach28Record body (fun out lri _ rec =>
    if lri = Lri.invStatus ∧ 24 ≤ rec.length then (statusTag rec).or out else out) none

/-- Whether the relay is closed. -/
def parseGridRelay (body : List UInt8) : Option Bool :=
  forEach28Record body (fun out lri _ rec =>
    if lri = Lri.invGridRelay ∧ 12 ≤ rec.length then
      let code := readU32 (slice rec 8 12) &&& 0x00FFFFFF
      if code = 51 then some true else if code = 311 then some false else none
    else out) none

/-- The text of a status tag. -/
def statusText (tag : UInt32) : String :=
  match tag.toNat with
  | 35 => "Error"
  | 51 => "Closed"
  | 303 => "Off"
  | 304 => "Island mode"
  | 307 => "Ok"
  | 311 => "Open"
  | 350 => "Waiting for feed-in"
  | 396 => "Derating (temperature)"
  | 455 => "Warning"
  | 456 => "Waiting for DC"
  | 457 => "Waiting for grid"
  | 141 => "Derating active"
  | 155 => "Grid island"
  | 261 => "Derating active"
  | 264 => "SMA Grid Guard OK"
  | 366 => "Params set OK"
  | 369 => "Update file OK"
  | 1266 => "Rated current warning"
  | 86 => "Fault: AC offset current sensor"
  | 97 => "Fault: AC offset voltage"
  | 117 => "Fault: DC current sensor A"
  | 118 => "Fault: DC current sensor B"
  | 137 => "Waiting for main CPU"
  | 192 => "Fault: interior temp sensor"
  | 193 => "Fault: power-unit temp sensor"
  | 468 => "Fault: CAN init"
  | 469 => "Fault: DA converter"
  | 470 => "Fault: reverse current"
  | 471 => "Fault: IPC communication"
  | 472 => "Fault: RTC init"
  | 473 => "Fault: overvoltage protector"
  | 503 => "Fault: ambient temp sensor"
  | 504 => "Fault: battery temp sensor"
  | 505 => "Fault: DC voltage sensor"
  | 506 => "Fault: power-unit temp sensor 2"
  | 507 => "Fault: fan permanently on"
  | 508 => "Fault: transformer temp sensor"
  | _ => "Unknown"

/-! ## Firmware versions -/

/-- A byte as its two hexadecimal digits in decimal. -/
def bcd (b : UInt8) : String := toString (b >>> 4).toNat ++ toString (b &&& 0x0F).toNat

/-- A number with at least two digits. -/
def twoDigits (n : Nat) : String := if n < 10 then "0" ++ toString n else toString n

/-- The packed version: type, build, minor and major, from the low byte up. -/
def versionText (v : UInt32) : String :=
  let vtype := v.toUInt8
  let vbuild := (v >>> 8).toUInt8
  let vminor := (v >>> 16).toUInt8
  let vmajor := (v >>> 24).toUInt8
  let typeChar := ["N", "E", "A", "B", "R", "S"].getD vtype.toNat "?"
  bcd vmajor ++ "." ++ bcd vminor ++ "." ++ twoDigits vbuild.toNat ++ "." ++ typeChar

def parseSoftwareVersion (body : List UInt8) : Option String :=
  forEach28Record body (fun out lri _ rec =>
    if lri = Lri.swVersion ∧ 28 ≤ rec.length then
      let v := readU32 (slice rec 24 28)
      if v = u32Nan ∨ v = 0 then out else some (versionText v)
    else out) none

/-! ## Events -/

/-- The text of an event tag, if it is a known one. -/
def eventTagText (tag : UInt16) : Option String :=
  match tag.toNat with
  | 295 => some "SMA Grid Guard code entered"
  | 301 => some "Waiting for grid voltage"
  | 302 => some "Waiting for grid frequency"
  | 303 => some "Off"
  | 304 => some "Starting"
  | 305 => some "MPP search"
  | 306 => some "Feeding"
  | 307 => some "Normal operation"
  | 308 => some "Standby"
  | 309 => some "Stop"
  | 311 => some "System OK"
  | 326 => some "Grid voltage too low"
  | 327 => some "Grid voltage too high"
  | 328 => some "Grid frequency too low"
  | 329 => some "Grid frequency too high"
  | 330 => some "Grid voltage window error"
  | 331 => some "Grid frequency window error"
  | 332 => some "10-min average grid voltage exceeded"
  | 401 => some "Insulation resistance fault"
  | 402 => some "Residual current fault"
  | 403 => some "DC voltage too high — grid feed interrupted"
  | 404 => some "DC voltage too low"
  | 405 => some "Temperature inside device too high"
  | 406 => some "Self-test failure"
  | 407 => some "Derating due to temperature"
  | 408 => some "Derating due to excessive grid voltage"
  | 501 => some "Communication error with grid"
  | 601 => some "System start"
  | 602 => some "System stop"
  | 603 => some "Firmware update initiated"
  | 604 => some "Firmware update successful"
  | 605 => some "Firmware update failed"
  | 701 => some "User logoff"
  | 702 => some "User login successful"
  | 703 => some "Invalid password"
  | _ => none

namespace EventRecord

/-- The low 16 bits of the event code. -/
def tag (r : EventRecord) : UInt16 := r.eventCode.toUInt16

def text (r : EventRecord) : Option String := eventTagText r.tag

end EventRecord

end HassSma
