/-
  The parsers of reply bodies with every access checked (`inverter-client/src/values.rs`).

  Each parser stands here a second time, access by access as in the source: a slice, an index, a word
  read from a slice and the one subtraction may trap (`Checked`).  None of them does, whatever the body,
  and what comes out is what the parsers of `Values` give (`parsers_never_trap`).

  The record loops carry the argument: the guard of the loop covers the reads of the record's code and
  time, and the length checks in the value readers cover the slots.
-/
import HassSma.Client.Values
import HassSma.Lib.Checked

namespace HassSma.Literal

open Bytes Checked

/-! ## Records -/

def recordsRegion (body : List UInt8) : Checked (List UInt8) :=
  if 12 ≤ body.length then rangeFrom body 12 else pure []

theorem recordsRegion_ok (body : List UInt8) :
    recordsRegion body = .ok (HassSma.recordsRegion body) := by
  rw [recordsRegion, HassSma.recordsRegion]
  split
  · rename_i hlen
    exact rangeFrom_ok hlen
  · rfl

section

variable {α β : Type}

/-- The loop over spot records: 28 bytes each, 20 where fewer than 28 are left. -/
def spotLoop (visit : α → List UInt8 → Checked α) (region : List UInt8) (start : α) : Checked α :=
  loop (fun (s : Nat × α) =>
    if s.1 + 20 ≤ region.length then do
      let remaining ← sub region.length s.1
      let stride := if 28 ≤ remaining then 28 else 20
      let rec ← range region s.1 (s.1 + stride)
      let out ← visit s.2 rec
      pure (.inl (s.1 + stride, out))
    else pure (.inr s.2)) (region.length + 1) (0, start)

/-- The loop over records of one size, which a visit may leave. -/
def sizedLoop (size : Nat) (visit : α → List UInt8 → Checked (α ⊕ β)) (finish : α → β)
    (region : List UInt8) (start : α) : Checked β :=
  loop (fun (s : Nat × α) =>
    if s.1 + size ≤ region.length then do
      let rec ← range region s.1 (s.1 + size)
      match ← visit s.2 rec with
      | .inl out => pure (.inl (s.1 + size, out))
      | .inr b => pure (.inr b)
    else pure (.inr (finish s.2))) (region.length + 1) (0, start)

/-- What such a loop computes. -/
def walk (visit : α → List UInt8 → α ⊕ β) (finish : α → β) : List (List UInt8) → α → β
  | [], out => finish out
  | rec :: recs, out =>
    match visit out rec with
    | .inl out => walk visit finish recs out
    | .inr b => b

/-- **The loop over spot records** reads no byte behind the region. -/
theorem spotLoop_ok {visit : α → List UInt8 → Checked α} {g : α → List UInt8 → α}
    (hvisit : ∀ out rec, 20 ≤ rec.length → visit out rec = .ok (g out rec)) (region : List UInt8)
    (start : α) : spotLoop visit region start = .ok ((spotRecords region).foldl g start) := by
  refine loop_eq (fun (s : Nat × α) => (spotRecords (region.drop s.1)).foldl g s.2)
    (fun (s : Nat × α) => region.length - s.1) ?_ (by omega)
  rintro ⟨i, out⟩
  have hlen : (region.drop i).length = region.length - i := List.length_drop
  by_cases hmore : i + 20 ≤ region.length
  · right
    have hcons := @spotRecords_cons (region.drop i) (by omega)
    rw [hlen] at hcons
    simp only [if_pos hmore, hcons, sub_ok (show i ≤ region.length by omega), ok_bind]
    generalize hstride : (if 28 ≤ region.length - i then 28 else 20) = stride
    have hfits : 20 ≤ stride ∧ i + stride ≤ region.length := by
      rw [← hstride]
      split <;> omega
    have hrec : 20 ≤ (slice region i (i + stride)).length := by
      rw [length_slice]
      omega
    refine ⟨(i + stride, g out (slice region i (i + stride))), ?_, ?_, ?_⟩
    · rw [range_ok (by omega) hfits.2, ok_bind, hvisit out _ hrec]
      rfl
    · rw [List.foldl_cons, slice_add, List.drop_drop]
    · simp only
      omega
  · left
    simp only [if_neg hmore, spotRecords_nil (show (region.drop i).length < 20 by omega)]
    rfl

/-- **The loop over records of one size** reads no byte behind the region either. -/
theorem sizedLoop_ok {size : Nat} (hsize : 0 < size) {visit : α → List UInt8 → Checked (α ⊕ β)}
    {g : α → List UInt8 → α ⊕ β}
    (hvisit : ∀ out rec, rec.length = size → visit out rec = .ok (g out rec)) (finish : α → β)
    (region : List UInt8) (start : α) :
    sizedLoop size visit finish region start
      = .ok (walk g finish (sizedRecords size region) start) := by
  refine loop_eq (fun (s : Nat × α) => walk g finish (sizedRecords size (region.drop s.1)) s.2)
    (fun (s : Nat × α) => region.length - s.1) ?_ (by omega)
  rintro ⟨i, out⟩
  have hlen : (region.drop i).length = region.length - i := List.length_drop
  by_cases hmore : i + size ≤ region.length
  · have hrec : ((region.drop i).take size).length = size := by
      rw [List.length_take]
      omega
    simp only [if_pos hmore, range_ok (Nat.le_add_right i size) hmore, slice_add, ok_bind,
      hvisit out _ hrec,
      sizedRecords_cons hsize (show size ≤ (region.drop i).length by omega), walk]
    cases g out ((region.drop i).take size) with
    | inl out' =>
      right
      refine ⟨(i + size, out'), rfl, ?_, ?_⟩
      · rw [List.drop_drop]
      · simp only
        omega
    | inr b => exact .inl rfl
  · left
    simp only [if_neg hmore, sizedRecords_nil (show (region.drop i).length < size by omega)]
    rfl

variable (f : α → UInt32 → UInt32 → List UInt8 → Checked α)

def forEach28Record (body : List UInt8) (start : α) : Checked α := do
  let region ← recordsRegion body
  spotLoop (fun out rec => do
    let code ← u32At rec 0 4
    let dt ← u32At rec 4 8
    f out (recordLri code) dt rec) region start

def forEach16Record (body : List UInt8) (start : α) : Checked α := do
  let region ← recordsRegion body
  sizedLoop 16 (fun out rec => do
    let code ← u32At rec 0 4
    let dt ← u32At rec 4 8
    let out ← f out (recordLri code) dt rec
    pure (.inl out)) id region start

variable {f} {g : α → UInt32 → UInt32 → List UInt8 → α}
  (hf : ∀ out lri dt rec, f out lri dt rec = .ok (g out lri dt rec))
include hf

theorem forEach28Record_ok (body : List UInt8) (start : α) :
    forEach28Record f body start = .ok (HassSma.forEach28Record body g start) := by
  rw [forEach28Record, recordsRegion_ok, ok_bind]
  refine spotLoop_ok (fun out rec hlen => ?_) _ start
  rw [u32At_ok (by omega) (by omega), ok_bind, u32At_ok (by omega) (by omega), ok_bind, hf]

theorem forEach16Record_ok (body : List UInt8) (start : α) :
    forEach16Record f body start = .ok (HassSma.forEach16Record body g start) := by
  have hvisit : ∀ (out : α) (rec : List UInt8), rec.length = 16 → (do
      let code ← u32At rec 0 4
      let dt ← u32At rec 4 8
      let out ← f out (recordLri code) dt rec
      pure (.inl out) : Checked (α ⊕ α))
      = .ok (.inl (g out (recordLri (readU32 (slice rec 0 4))) (readU32 (slice rec 4 8)) rec)) := by
    intro out rec hlen
    rw [u32At_ok (by omega) (by omega), ok_bind, u32At_ok (by omega) (by omega), ok_bind, hf]
    rfl
  rw [forEach16Record, recordsRegion_ok, ok_bind, sizedLoop_ok (by decide) hvisit,
    HassSma.forEach16Record]
  generalize sizedRecords 16 (HassSma.recordsRegion body) = recs
  congr 1
  induction recs generalizing start with
  | nil => rfl
  | cons rec recs ih => exact ih _

end

/-! ## Value slots -/

def i32Value28 (rec : List UInt8) : Checked (Option Int) :=
  if rec.length < 20 then pure none
  else do
    let v ← u32At rec 16 20
    if v = i32Nan then pure none else pure (some v.toInt32.toInt)

def u32Value28 (rec : List UInt8) : Checked (Option UInt32) :=
  if rec.length < 20 then pure none
  else do
    let v ← u32At rec 16 20
    if v = u32Nan ∨ v = i32Nan then pure none else pure (some v)

def u64Value16 (rec : List UInt8) : Checked (Option UInt64) :=
  if rec.length < 16 then pure none
  else do
    let v ← u64At rec 8 16
    if v = u64Nan ∨ v = 0xFFFFFFFFFFFFFFFF then pure none else pure (some v)

/-- A signed value over `den`. -/
def scaledValue28 (den : Nat) (rec : List UInt8) : Checked (Option Scaled) := do
  let v ← i32Value28 rec
  pure (v.map fun v => ⟨v, den⟩)

section

variable (rec : List UInt8)

/-- A slot behind its length check. -/
theorem guarded_ok {β : Type} {n : Nat} {slot : Checked (Option β)} {value : Option β}
    (h : n ≤ rec.length → slot = .ok value) :
    (if rec.length < n then pure none else slot)
      = .ok (if rec.length < n then none else value) := by
  by_cases hlen : rec.length < n
  · rw [if_pos hlen, if_pos hlen]
    rfl
  · rw [if_neg hlen, if_neg hlen]
    exact h (Nat.not_lt.mp hlen)

@[simp] theorem i32Value28_ok : i32Value28 rec = .ok (HassSma.i32Value28 rec) := by
  refine guarded_ok rec fun hlen => ?_
  rw [u32At_ok (by omega) hlen, ok_bind]
  split <;> rfl

@[simp] theorem u32Value28_ok : u32Value28 rec = .ok (HassSma.u32Value28 rec) := by
  refine guarded_ok rec fun hlen => ?_
  rw [u32At_ok (by omega) hlen, ok_bind]
  split <;> rfl

@[simp] theorem u64Value16_ok : u64Value16 rec = .ok (HassSma.u64Value16 rec) := by
  refine guarded_ok rec fun hlen => ?_
  rw [u64At_ok (by omega) hlen, ok_bind]
  split <;> rfl

@[simp] theorem scaledValue28_ok (den : Nat) :
    scaledValue28 den rec = .ok (HassSma.scaledValue28 den rec) := by
  rw [scaledValue28, i32Value28_ok]
  rfl

end

/-! ## Parsers of one slot -/

def parseSpotAcTotalPower (body : List UInt8) : Checked InverterReadings :=
  forEach28Record (fun out lri dt rec =>
    if lri = Lri.spotPacTotal then do
      let v ← i32Value28 rec
      pure { out with pacTotalW := v, timestamp := some dt }
    else pure out) body ⟨none, none⟩

def parseEnergyProduction (body : List UInt8) : Checked (Option UInt64 × Option UInt64) :=
  forEach16Record (fun out lri _ rec =>
    if lri = Lri.spotEToday then do
      let v ← u64Value16 rec
      pure (v, out.2)
    else if lri = Lri.spotETotal then do
      let v ← u64Value16 rec
      pure (out.1, v)
    else pure out) body (none, none)

def parseInverterTemperature (body : List UInt8) : Checked (Option Scaled) :=
  forEach28Record (fun out lri _ rec =>
    if lri = Lri.invTemperature then scaledValue28 100 rec else pure out) body none

def parseGridFrequency (body : List UInt8) : Checked (Option Scaled) :=
  forEach28Record (fun out lri _ rec =>
    if lri = Lri.gridFrequency then do
      let v ← u32Value28 rec
      pure (v.map fun v => ⟨v.toNat, 100⟩)
    else pure out) body none

def parseCosphi (body : List UInt8) : Checked (Option Scaled) :=
  forEach28Record (fun out lri _ rec =>
    if ((0x00237400 ≤ lri ∧ lri ≤ 0x002374FF) ∨ (0x00474800 ≤ lri ∧ lri ≤ 0x004748FF))
        ∧ out = none then do
      let v ← i32Value28 rec
      pure (v.map fun v => ⟨v.natAbs, 1000⟩)
    else pure out) body none

def parseSpotAcPower (body : List UInt8) : Checked AcPerPhase :=
  forEach28Record (fun out lri dt rec =>
    if lri = Lri.gridMsWPhsA then do
      let v ← i32Value28 rec
      pure { out with pac1W := v, timestamp := some dt }
    else if lri = Lri.gridMsWPhsB then do
      let v ← i32Value28 rec
      pure { out with pac2W := v }
    else if lri = Lri.gridMsWPhsC then do
      let v ← i32Value28 rec
      pure { out with pac3W := v }
    else pure out) body ⟨none, none, none, none⟩

def parseSpotAcVoltage (body : List UInt8) : Checked AcVoltageCurrent :=
  forEach28Record (fun out lri _ rec =>
    if lri = Lri.gridMsVphsA then do
      let v ← scaledValue28 100 rec
      pure { out with uac1V := v }
    else if lri = Lri.gridMsVphsB then do
      let v ← scaledValue28 100 rec
      pure { out with uac2V := v }
    else if lri = Lri.gridMsVphsC then do
      let v ← scaledValue28 100 rec
      pure { out with uac3V := v }
    else if lri = Lri.gridMsAphsA then do
      let v ← scaledValue28 1000 rec
      pure { out with iac1A := v }
    else if lri = Lri.gridMsAphsB then do
      let v ← scaledValue28 1000 rec
      pure { out with iac2A := v }
    else if lri = Lri.gridMsAphsC then do
      let v ← scaledValue28 1000 rec
      pure { out with iac3A := v }
    else pure out) body ⟨none, none, none, none, none, none⟩

def parseDcBlock (body : List UInt8) : Checked DcPerString := do
  let region ← recordsRegion body
  spotLoop (fun out rec => do
    let code ← u32At rec 0 4
    let lri := recordLri code
    let cls := code &&& 0xFF
    if lri = Lri.dcMsWatt ∧ cls = 1 then do
      let v ← i32Value28 rec
      pure { out with pdc1W := v }
    else if lri = Lri.dcMsWatt ∧ cls = 2 then do
      let v ← i32Value28 rec
      pure { out with pdc2W := v }
    else if lri = Lri.dcMsVol ∧ cls = 1 then do
      let v ← scaledValue28 100 rec
      pure { out with udc1V := v }
    else if lri = Lri.dcMsVol ∧ cls = 2 then do
      let v ← scaledValue28 100 rec
      pure { out with udc2V := v }
    else if lri = Lri.dcMsAmp ∧ cls = 1 then do
      let v ← scaledValue28 1000 rec
      pure { out with idc1A := v }
    else if lri = Lri.dcMsAmp ∧ cls = 2 then do
      let v ← scaledValue28 1000 rec
      pure { out with idc2A := v }
    else pure out) region ⟨none, none, none, none, none, none⟩

def parseSpotDcPower (body : List UInt8) : Checked DcPerString := parseDcBlock body

def parseSpotDcVoltage (body : List UInt8) : Checked DcPerString := parseDcBlock body

def parseOperationTime (body : List UInt8) : Checked OperationTime :=
  forEach16Record (fun out lri _ rec =>
    if lri = Lri.spotOperTm then do
      let v ← u64Value16 rec
      pure { out with totalOpTimeS := v }
    else if lri = Lri.spotFeedTm then do
      let v ← u64Value16 rec
      pure { out with feedInTimeS := v }
    else pure out) body ⟨none, none⟩

section

variable (body : List UInt8)

theorem parseSpotAcTotalPower_ok :
    parseSpotAcTotalPower body = .ok (HassSma.parseSpotAcTotalPower body) := by
  refine forEach28Record_ok (fun out lri dt rec => ?_) body _
  simp only [i32Value28_ok, ok_bind]
  split <;> rfl

theorem parseEnergyProduction_ok :
    parseEnergyProduction body = .ok (HassSma.parseEnergyProduction body) := by
  refine forEach16Record_ok (fun out lri dt rec => ?_) body _
  simp only [u64Value16_ok, ok_bind]
  split
  · rfl
  · split <;> rfl

theorem parseInverterTemperature_ok :
    parseInverterTemperature body = .ok (HassSma.parseInverterTemperature body) := by
  refine forEach28Record_ok (fun out lri dt rec => ?_) body _
  simp only [scaledValue28_ok]
  split <;> rfl

theorem parseGridFrequency_ok :
    parseGridFrequency body = .ok (HassSma.parseGridFrequency body) := by
  refine forEach28Record_ok (fun out lri dt rec => ?_) body _
  simp only [u32Value28_ok, ok_bind]
  split <;> rfl

theorem parseCosphi_ok : parseCosphi body = .ok (HassSma.parseCosphi body) := by
  refine forEach28Record_ok (fun out lri dt rec => ?_) body _
  simp only [i32Value28_ok, ok_bind]
  split <;> rfl

theorem parseSpotAcPower_ok : parseSpotAcPower body = .ok (HassSma.parseSpotAcPower body) := by
  refine forEach28Record_ok (fun out lri dt rec => ?_) body _
  simp only [i32Value28_ok, ok_bind, pure_eq, ← apply_ite]

theorem parseSpotAcVoltage_ok : parseSpotAcVoltage body = .ok (HassSma.parseSpotAcVoltage body) := by
  refine forEach28Record_ok (fun out lri dt rec => ?_) body _
  simp only [scaledValue28_ok, ok_bind, pure_eq, ← apply_ite]

theorem parseDcBlock_ok : parseDcBlock body = .ok (HassSma.parseDcBlock body) := by
  rw [parseDcBlock, recordsRegion_ok, ok_bind]
  refine spotLoop_ok (fun out rec hlen => ?_) _ _
  rw [u32At_ok (by omega) (by omega), ok_bind]
  simp only [i32Value28_ok, scaledValue28_ok, ok_bind, pure_eq, ← apply_ite]

theorem parseOperationTime_ok :
    parseOperationTime body = .ok (HassSma.parseOperationTime body) := by
  refine forEach16Record_ok (fun out lri dt rec => ?_) body _
  simp only [u64Value16_ok, ok_bind, pure_eq, ← apply_ite]

end

/-! ## Parsers of several slots -/

/-- The slots of a watts record, up to the first one with a value. -/
def firstWatts (rec : List UInt8) : List Nat → Checked (Option UInt32)
  | [] => pure none
  | off :: offs =>
    if rec.length < off + 4 then firstWatts rec offs
    else do
      let v ← u32At rec off (off + 4)
      if v ≠ 0 ∧ v ≠ i32Nan ∧ v ≠ u32Nan then pure (some v) else firstWatts rec offs

def parseSingleWattsRecord (body : List UInt8) (lriFirst lriLast : UInt32) :
    Checked (Option UInt32) :=
  forEach28Record (fun out lri _ rec =>
    if lriFirst ≤ lri ∧ lri ≤ lriLast ∧ out = none then firstWatts rec [16, 8, 12, 20, 24]
    else pure out) body none

/-- The attribute slots of a type-label record, up to the selected one or the end marker. -/
def selectedTag (rec : List UInt8) : List Nat → Checked (Option UInt32)
  | [] => pure none
  | off :: offs => do
    let attr ← u32At rec off (off + 4)
    let tag := attr &&& 0x00FFFFFF
    if tag = 0x00FFFFFE then pure none
    else if attr >>> 24 = 1 then pure (some tag)
    else selectedTag rec offs

def parseTypeLabelRaw (body : List UInt8) : Checked (Option UInt32) := do
  let region ← recordsRegion body
  sizedLoop 40 (fun (_ : Unit) rec => do
    let code ← u32At rec 0 4
    let lri := recordLri code
    if lri = 0x00821E00 ∨ lri = 0x00821F00 ∨ lri = 0x00822000 then do
      match ← selectedTag rec [8, 12, 16, 20, 24, 28, 32, 36] with
      | some tag => pure (.inr (some tag))
      | none => pure (.inl ())
    else pure (.inl ())) (fun _ => none) region ()

/-- The status slots, up to the first one that is in use and passes the test. -/
def firstStatus (rec : List UInt8) (test : UInt32 → Bool) : List Nat → Checked (Option UInt32)
  | [] => pure none
  | off :: offs => do
    let v ← u32At rec off (off + 4)
    if v = 0 ∨ v = u32Nan then firstStatus rec test offs
    else if test v then pure (some (v &&& 0x00FFFFFF))
    else firstStatus rec test offs

def parseDeviceStatus (body : List UInt8) : Checked (Option UInt32) :=
  forEach28Record (fun out lri _ rec =>
    if lri = Lri.invStatus ∧ 24 ≤ rec.length then do
      match ← firstStatus rec (fun v => v &&& 0x01000000 ≠ 0) [8, 12, 16, 20] with
      | some tag => pure (some tag)
      | none => do
        -- no slot is selected: the first value, as a best effort
        match ← firstStatus rec (fun _ => true) [8, 12, 16, 20] with
        | some tag => pure (some tag)
        | none => pure out
    else pure out) body none

def parseGridRelay (body : List UInt8) : Checked (Option Bool) :=
  forEach28Record (fun out lri _ rec =>
    if lri = Lri.invGridRelay ∧ 12 ≤ rec.length then do
      let v ← u32At rec 8 12
      let code := v &&& 0x00FFFFFF
      if code = 51 then pure (some true) else if code = 311 then pure (some false) else pure none
    else pure out) body none

/-- `"NEABRS".as_bytes()[vtype as usize] as char` -/
def versionTypes : List UInt8 := [0x4E, 0x45, 0x41, 0x42, 0x52, 0x53]

def versionText (v : UInt32) : Checked String := do
  let vtype := v.toUInt8
  let vbuild := (v >>> 8).toUInt8
  let vminor := (v >>> 16).toUInt8
  let vmajor := (v >>> 24).toUInt8
  let typeChar ← if vtype.toNat < 6 then do
      let b ← index versionTypes vtype.toNat
      pure (String.singleton (Char.ofNat b.toNat))
    else pure "?"
  pure (bcd vmajor ++ "." ++ bcd vminor ++ "." ++ twoDigits vbuild.toNat ++ "." ++ typeChar)

def parseSoftwareVersion (body : List UInt8) : Checked (Option String) :=
  forEach28Record (fun out lri _ rec =>
    if lri = Lri.swVersion ∧ 28 ≤ rec.length then do
      let v ← u32At rec 24 28
      if v = u32Nan ∨ v = 0 then pure out
      else do
        let text ← versionText v
        pure (some text)
    else pure out) body none

def parseEventLogRecords (body : List UInt8) : Checked (List EventRecord) :=
  if body.length < 12 then pure []
  else do
    let payload ← rangeFrom body 12
    sizedLoop 24 (fun out rec => do
      let entryId ← u32At rec 0 4
      let timestamp ← u32At rec 4 8
      let eventCode ← u32At rec 8 12
      let deviceId ← u32At rec 12 16
      let param1 ← u32At rec 16 20
      let param2 ← u32At rec 20 24
      -- a record of zeros is padding
      if entryId = 0 ∧ eventCode = 0 ∧ timestamp = 0 then pure (.inr out)
      else pure (.inl (out ++ [⟨entryId, timestamp, eventCode, deviceId, param1, param2⟩])))
      id payload []

section

variable (body : List UInt8)

theorem firstWatts_ok (rec : List UInt8) (offs : List Nat) :
    firstWatts rec offs = .ok (offs.findSome? fun off =>
      if rec.length < off + 4 then none
      else
        let v := readU32 (slice rec off (off + 4))
        if v ≠ 0 ∧ v ≠ i32Nan ∧ v ≠ u32Nan then some v else none) := by
  induction offs with
  | nil => rfl
  | cons off offs ih =>
    rw [firstWatts, List.findSome?_cons]
    by_cases hlen : rec.length < off + 4
    · rw [if_pos hlen, if_pos hlen]
      exact ih
    · rw [if_neg hlen, if_neg hlen, u32At_ok (by omega) (by omega), ok_bind]
      simp only
      split
      · rfl
      · exact ih

theorem parseSingleWattsRecord_ok (lriFirst lriLast : UInt32) :
    parseSingleWattsRecord body lriFirst lriLast
      = .ok (HassSma.parseSingleWattsRecord body lriFirst lriLast) := by
  refine forEach28Record_ok (fun out lri dt rec => ?_) body _
  simp only [firstWatts_ok, pure_eq, ← apply_ite]

theorem selectedTag_ok {rec : List UInt8} {offs : List Nat} (h : ∀ off ∈ offs, off + 4 ≤ rec.length) :
    selectedTag rec offs = .ok (HassSma.selectedTag rec offs) := by
  induction offs with
  | nil => rfl
  | cons off offs ih =>
    rw [List.forall_mem_cons] at h
    rw [selectedTag, u32At_ok (by omega) h.1, ok_bind, HassSma.selectedTag, ih h.2]
    simp only [pure_eq, ← apply_ite]

omit body in
/-- Leaving the loop at the first record that has something is finding it. -/
theorem walk_findSome (h : List UInt8 → Option UInt32) (recs : List (List UInt8)) :
    walk (fun (_ : Unit) rec =>
      match h rec with
      | some tag => .inr (some tag)
      | none => .inl ()) (fun _ => none) recs () = recs.findSome? h := by
  induction recs with
  | nil => rfl
  | cons rec recs ih =>
    rw [walk, List.findSome?_cons]
    cases h rec with
    | some tag => rfl
    | none => exact ih

theorem parseTypeLabelRaw_ok : parseTypeLabelRaw body = .ok (HassSma.parseTypeLabelRaw body) := by
  rw [parseTypeLabelRaw, recordsRegion_ok, ok_bind, HassSma.parseTypeLabelRaw, ← walk_findSome]
  refine sizedLoop_ok (by decide) (fun _ rec hlen => ?_) _ _ _
  rw [u32At_ok (by omega) (by omega), ok_bind]
  have htag : selectedTag rec [8, 12, 16, 20, 24, 28, 32, 36]
      = .ok (HassSma.selectedTag rec [8, 12, 16, 20, 24, 28, 32, 36]) := by
    apply selectedTag_ok
    simp [hlen]
  rw [htag]
  simp only [ok_bind]
  split
  · cases HassSma.selectedTag rec [8, 12, 16, 20, 24, 28, 32, 36] <;> rfl
  · rfl

theorem firstStatus_ok {rec : List UInt8} {offs : List Nat} (h : ∀ off ∈ offs, off + 4 ≤ rec.length)
    (test : UInt32 → Bool) :
    firstStatus rec test offs = .ok ((((offs.map fun off => readU32 (slice rec off (off + 4))).filter
      fun v => v ≠ 0 ∧ v ≠ u32Nan).find? test).map (· &&& 0x00FFFFFF)) := by
  induction offs with
  | nil => rfl
  | cons off offs ih =>
    rw [List.forall_mem_cons] at h
    rw [firstStatus, u32At_ok (by omega) h.1, ok_bind, ih h.2, List.map_cons, List.filter_cons]
    by_cases hunused : readU32 (slice rec off (off + 4)) = 0
        ∨ readU32 (slice rec off (off + 4)) = u32Nan
    · rw [if_pos hunused, if_neg (by simpa [← not_or] using hunused)]
    · have hused : decide (readU32 (slice rec off (off + 4)) ≠ 0
          ∧ readU32 (slice rec off (off + 4)) ≠ u32Nan) = true := by
        simpa [not_or] using hunused
      rw [if_neg hunused, if_pos hused, List.find?_cons]
      cases test (readU32 (slice rec off (off + 4))) with
      | true => rfl
      | false => rfl

theorem parseDeviceStatus_ok : parseDeviceStatus body = .ok (HassSma.parseDeviceStatus body) := by
  refine forEach28Record_ok (fun out lri dt rec => ?_) body _
  by_cases hstatus : lri = Lri.invStatus ∧ 24 ≤ rec.length
  · have hoffs : ∀ off ∈ [8, 12, 16, 20], off + 4 ≤ rec.length := by
      simp only [List.forall_mem_cons, List.not_mem_nil, false_implies, implies_true, and_true]
      omega
    rw [if_pos hstatus, if_pos hstatus, firstStatus_ok hoffs, firstStatus_ok hoffs,
      HassSma.statusTag]
    simp only [ok_bind]
    generalize (([8, 12, 16, 20].map fun off => readU32 (slice rec off (off + 4))).filter
      fun v => v ≠ 0 ∧ v ≠ u32Nan) = slots
    have hfirst : (slots.find? fun _ => true) = slots.head? := by cases slots <;> rfl
    rw [hfirst]
    cases slots.find? fun v => decide (v &&& 0x01000000 ≠ 0) with
    | some v => rfl
    | none => cases slots.head? <;> rfl
  · rw [if_neg hstatus, if_neg hstatus]
    rfl

theorem parseGridRelay_ok : parseGridRelay body = .ok (HassSma.parseGridRelay body) := by
  refine forEach28Record_ok (fun out lri dt rec => ?_) body _
  by_cases hrelay : lri = Lri.invGridRelay ∧ 12 ≤ rec.length
  · rw [if_pos hrelay, if_pos hrelay, u32At_ok (by omega) hrelay.2, ok_bind]
    simp only [pure_eq, ← apply_ite]
  · rw [if_neg hrelay, if_neg hrelay]
    rfl

omit body in
theorem versionText_ok (v : UInt32) : versionText v = .ok (HassSma.versionText v) := by
  rw [versionText, HassSma.versionText]
  generalize v.toUInt8.toNat = vtype
  by_cases hknown : vtype < 6
  · rw [if_pos hknown, index_ok hknown]
    interval_cases vtype <;> rfl
  · have hnone : ["N", "E", "A", "B", "R", "S"][vtype]? = none :=
      List.getElem?_eq_none (Nat.not_lt.mp hknown)
    rw [if_neg hknown, List.getD_eq_getElem?_getD, hnone]
    rfl

theorem parseSoftwareVersion_ok :
    parseSoftwareVersion body = .ok (HassSma.parseSoftwareVersion body) := by
  refine forEach28Record_ok (fun out lri dt rec => ?_) body _
  by_cases hversion : lri = Lri.swVersion ∧ 28 ≤ rec.length
  · rw [if_pos hversion, if_pos hversion, u32At_ok (by omega) hversion.2, ok_bind]
    simp only [versionText_ok, ok_bind, pure_eq, ← apply_ite]
  · rw [if_neg hversion, if_neg hversion]
    rfl

omit body in
theorem slice_take {d : List UInt8} {i j n : Nat} (h : j ≤ n) :
    slice (d.take n) i j = slice d i j := by
  rw [slice, slice, List.drop_take, List.take_take, Nat.min_eq_left (by omega)]

/-- The loop over events, as the parser goes on behind each record. -/
theorem walk_events (payload : List UInt8) (out : List EventRecord) :
    walk (fun out rec =>
      if (EventRecord.read rec).IsPadding then .inr out
      else .inl (out ++ [EventRecord.read rec])) id (sizedRecords 24 payload) out
      = out ++ parseEventRecords payload := by
  have hread : ∀ payload, EventRecord.read (payload.take 24) = EventRecord.read payload := by
    intro payload
    simp (disch := omega) only [EventRecord.read, slice_take]
  induction payload using parseEventRecords.induct generalizing out with
  | case1 payload hshort =>
    rw [sizedRecords_nil hshort, parseEventRecords, if_pos hshort, List.append_nil]
    rfl
  | case2 payload hlong hpadding =>
    rw [sizedRecords_cons (by decide) (Nat.not_lt.mp hlong), parseEventRecords, if_neg hlong,
      if_pos hpadding, walk, hread, if_pos hpadding, List.append_nil]
  | case3 payload hlong hrecord ih =>
    rw [sizedRecords_cons (by decide) (Nat.not_lt.mp hlong), parseEventRecords, if_neg hlong,
      if_neg hrecord, walk, hread, if_neg hrecord]
    exact (ih _).trans (List.append_cons out _ _).symm

theorem parseEventLogRecords_ok :
    parseEventLogRecords body = .ok (HassSma.parseEventLogRecords body) := by
  rw [parseEventLogRecords, HassSma.parseEventLogRecords]
  by_cases hshort : body.length < 12
  · rw [if_pos hshort, if_pos hshort]
    rfl
  · rw [if_neg hshort, if_neg hshort, rangeFrom_ok (by omega), ok_bind]
    refine (sizedLoop_ok (by decide) (fun out rec hlen => ?_) _ _ _).trans
      (congrArg Except.ok (walk_events (body.drop 12) []))
    simp (disch := omega) only [u32At_ok, ok_bind, pure_eq, ← apply_ite]
    rfl

/-- On this body no parser traps, and each gives what its model gives. -/
structure ParsersNeverTrap : Prop where
  spotAcTotalPower : parseSpotAcTotalPower body = .ok (HassSma.parseSpotAcTotalPower body)
  energyProduction : parseEnergyProduction body = .ok (HassSma.parseEnergyProduction body)
  inverterTemperature : parseInverterTemperature body = .ok (HassSma.parseInverterTemperature body)
  gridFrequency : parseGridFrequency body = .ok (HassSma.parseGridFrequency body)
  cosphi : parseCosphi body = .ok (HassSma.parseCosphi body)
  singleWattsRecord : ∀ lriFirst lriLast, parseSingleWattsRecord body lriFirst lriLast
    = .ok (HassSma.parseSingleWattsRecord body lriFirst lriLast)
  typeLabelRaw : parseTypeLabelRaw body = .ok (HassSma.parseTypeLabelRaw body)
  spotAcPower : parseSpotAcPower body = .ok (HassSma.parseSpotAcPower body)
  spotAcVoltage : parseSpotAcVoltage body = .ok (HassSma.parseSpotAcVoltage body)
  spotDcPower : parseSpotDcPower body = .ok (HassSma.parseSpotDcPower body)
  spotDcVoltage : parseSpotDcVoltage body = .ok (HassSma.parseSpotDcVoltage body)
  operationTime : parseOperationTime body = .ok (HassSma.parseOperationTime body)
  deviceStatus : parseDeviceStatus body = .ok (HassSma.parseDeviceStatus body)
  gridRelay : parseGridRelay body = .ok (HassSma.parseGridRelay body)
  softwareVersion : parseSoftwareVersion body = .ok (HassSma.parseSoftwareVersion body)
  eventLogRecords : parseEventLogRecords body = .ok (HassSma.parseEventLogRecords body)

/-- **No parser traps**, whatever the body. -/
theorem parsers_never_trap : ParsersNeverTrap body where
  spotAcTotalPower := parseSpotAcTotalPower_ok body
  energyProduction := parseEnergyProduction_ok body
  inverterTemperature := parseInverterTemperature_ok body
  gridFrequency := parseGridFrequency_ok body
  cosphi := parseCosphi_ok body
  singleWattsRecord := parseSingleWattsRecord_ok body
  typeLabelRaw := parseTypeLabelRaw_ok body
  spotAcPower := parseSpotAcPower_ok body
  spotAcVoltage := parseSpotAcVoltage_ok body
  spotDcPower := parseDcBlock_ok body
  spotDcVoltage := parseDcBlock_ok body
  operationTime := parseOperationTime_ok body
  deviceStatus := parseDeviceStatus_ok body
  gridRelay := parseGridRelay_ok body
  softwareVersion := parseSoftwareVersion_ok body
  eventLogRecords := parseEventLogRecords_ok body

end

end HassSma.Literal
