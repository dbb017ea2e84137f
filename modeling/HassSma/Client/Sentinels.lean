/-
  Replies without readings (`inverter-client/src/values.rs`).

  At night an inverter answers with the usual records and `0x80000000` in every value slot.  A parser
  has to take that for "no reading", whatever the LRIs are and wherever the last record is cut.

  The value readers and the slot scan of the watts parser test for the sentinel, and the relay parser
  masks it to zero, which is no code it knows.  The status parser and the firmware parser test for
  `0xFFFFFFFF` and zero only: in the first the sentinel passes for a tag, which the mask turns into 0,
  in the second for version 80.00.00.N.  So a night-time reply is free of readings exactly when no full
  record of it carries the LRI of one of these two (`nothingReported_iff`).
-/
import HassSma.Client.Records

namespace HassSma

open Bytes LastWins

/-! ## Night-time replies -/

/-- Every whole slot from offset 8 on holds the sentinel. -/
def NoReading (record : List UInt8) : Prop :=
  ∀ k, 8 + 4 * k + 4 ≤ record.length →
    readU32 (slice record (8 + 4 * k) (8 + 4 * k + 4)) = i32Nan

/-- The parts of a reply without readings: the prefix, full records, and the last one if it is cut. -/
structure Night (pre : List UInt8) (records : List (List UInt8)) (tail : List UInt8) : Prop where
  pre_length : pre.length = 12
  full : ∀ record ∈ records, record.length = 28 ∧ NoReading record
  cut : tail = [] ∨ (20 ≤ tail.length ∧ tail.length ≤ 27 ∧ NoReading tail)

/-- No parser returns a value; timestamps aside. -/
structure NothingReported (body : List UInt8) : Prop where
  acTotalPower : (parseSpotAcTotalPower body).pacTotalW = none
  acPower : (parseSpotAcPower body).pac1W = none ∧ (parseSpotAcPower body).pac2W = none ∧
    (parseSpotAcPower body).pac3W = none
  acVoltage : parseSpotAcVoltage body = ⟨none, none, none, none, none, none⟩
  dcPower : parseSpotDcPower body = ⟨none, none, none, none, none, none⟩
  dcVoltage : parseSpotDcVoltage body = ⟨none, none, none, none, none, none⟩
  temperature : parseInverterTemperature body = none
  frequency : parseGridFrequency body = none
  cosphi : parseCosphi body = none
  singleWatts : ∀ lriFirst lriLast, parseSingleWattsRecord body lriFirst lriLast = none
  deviceStatus : parseDeviceStatus body = none
  gridRelay : parseGridRelay body = none
  softwareVersion : parseSoftwareVersion body = none

/-! ## Slots without a reading -/

/-- The sentinel in the slot at one of the offsets 8, 12, 16, 20, 24. -/
theorem NoReading.slot {record : List UInt8} (h : NoReading record) {off : Nat}
    (hoff : off ∈ [8, 12, 16, 20, 24]) (hlen : off + 4 ≤ record.length) :
    readU32 (slice record off (off + 4)) = i32Nan := by
  simp only [List.mem_cons, List.not_mem_nil, or_false] at hoff
  rcases hoff with rfl | rfl | rfl | rfl | rfl
  · exact h 0 hlen
  · exact h 1 hlen
  · exact h 2 hlen
  · exact h 3 hlen
  · exact h 4 hlen

/-- Cutting a record leaves nothing but sentinels in its slots. -/
theorem NoReading.take {record : List UInt8} (h : NoReading record) (n : Nat) :
    NoReading (record.take n) := by
  intro k hk
  rw [List.length_take] at hk
  have hslice : slice (record.take n) (8 + 4 * k) (8 + 4 * k + 4)
      = slice record (8 + 4 * k) (8 + 4 * k + 4) := by
    rw [slice_add, slice_add, List.drop_take, List.take_take]
    congr 1
    omega
  rw [hslice]
  exact h k (by omega)

/-- A visited record without a reading: it is 20 bytes long or 28. -/
structure Blank (record : List UInt8) : Prop where
  length_ge : 20 ≤ record.length
  noReading : NoReading record

namespace Blank

variable {record : List UInt8} (h : Blank record)
include h

theorem i32Value28 : HassSma.i32Value28 record = none := by
  have hlen := h.length_ge
  rw [HassSma.i32Value28, if_neg (by omega), h.noReading.slot (by decide) hlen, if_pos rfl]

theorem u32Value28 : HassSma.u32Value28 record = none := by
  have hlen := h.length_ge
  rw [HassSma.u32Value28, if_neg (by omega), h.noReading.slot (by decide) hlen, if_pos (.inr rfl)]

theorem scaledValue28 (den : Nat) : HassSma.scaledValue28 den record = none := by
  rw [HassSma.scaledValue28, h.i32Value28, Option.map_none]

/-- The scan over the five slots passes over all of them. -/
theorem findSome_slots :
    ([16, 8, 12, 20, 24].findSome? fun off =>
      if record.length < off + 4 then none
      else
        let v := readU32 (slice record off (off + 4))
        if v ≠ 0 ∧ v ≠ i32Nan ∧ v ≠ u32Nan then some v else none) = none := by
  rw [List.findSome?_eq_none_iff]
  intro off hoff
  by_cases hlen : record.length < off + 4
  · rw [if_pos hlen]
  · have hslot : readU32 (slice record off (off + 4)) = i32Nan :=
      h.noReading.slot (by revert hoff; simp only [List.mem_cons]; tauto) (Nat.not_lt.mp hlen)
    simp only [hslot, if_neg hlen]
    rw [if_neg (fun hv => hv.2.1 rfl)]

/-- **The status parser takes the sentinel for a tag**: the mask leaves 0 of it. -/
theorem statusTag (hlen : 24 ≤ record.length) : HassSma.statusTag record = some 0 := by
  have hslots : ([8, 12, 16, 20].map fun off => readU32 (slice record off (off + 4)))
      = [i32Nan, i32Nan, i32Nan, i32Nan] := by
    simp only [List.map_cons, List.map_nil, h.noReading.slot (show 8 ∈ [8, 12, 16, 20, 24] by decide)
      (by omega), h.noReading.slot (show 12 ∈ [8, 12, 16, 20, 24] by decide) (by omega),
      h.noReading.slot (show 16 ∈ [8, 12, 16, 20, 24] by decide) (by omega),
      h.noReading.slot (show 20 ∈ [8, 12, 16, 20, 24] by decide) hlen]
  rw [HassSma.statusTag, hslots]
  decide

end Blank

/-! ## Parsers without a reading -/

/-- The records that are visited in a night-time reply are blank. -/
theorem Night.blank {pre tail : List UInt8} {records : List (List UInt8)}
    (h : Night pre records tail) : ∀ record ∈ records ++ shortRecord tail, Blank record := by
  intro record hrecord
  rcases List.mem_append.mp hrecord with hfull | hcut
  · obtain ⟨hlen, hnan⟩ := h.full record hfull
    exact ⟨by omega, hnan⟩
  · rw [shortRecord] at hcut
    split at hcut
    · rename_i hlen
      rw [List.mem_singleton.mp hcut]
      rcases h.cut with rfl | ⟨-, -, hnan⟩
      · exact absurd hlen (by decide)
      · exact ⟨by rw [List.length_take]; omega, hnan.take 20⟩
    · exact absurd hcut List.not_mem_nil

/-- What a fold over blank records keeps. -/
theorem forEach28Record_blank {α : Type} {P : α → Prop} {body : List UInt8}
    {f : α → UInt32 → UInt32 → List UInt8 → α} {start : α}
    (hblank : ∀ record ∈ spotRecords (recordsRegion body), Blank record) (hstart : P start)
    (hkeep : ∀ out lri dt record, Blank record → P out → P (f out lri dt record)) :
    P (forEach28Record body f start) := by
  refine List.foldlRecOn (motive := P) _ _ hstart ?_
  intro out hout record hrecord
  exact hkeep out _ _ record (hblank record hrecord) hout

/-- An item that satisfies `c` sets the result, and nothing unsets it. -/
theorem foldl_eq_none_iff {α ι : Type} {c : ι → Prop} {f : Option α → ι → Option α} {a : α}
    {items : List ι} (hset : ∀ out, ∀ x ∈ items, c x → f out x = some a)
    (hkeep : ∀ out, ∀ x ∈ items, ¬ c x → f out x = out) (start : Option α) :
    items.foldl f start = none ↔ start = none ∧ ∀ x ∈ items, ¬ c x := by
  induction items generalizing start with
  | nil => simp
  | cons x items ih =>
    rw [List.forall_mem_cons, List.foldl_cons,
      ih (fun out y hy => hset out y (List.mem_cons_of_mem x hy))
        (fun out y hy => hkeep out y (List.mem_cons_of_mem x hy))]
    by_cases hx : c x
    · rw [hset start x List.mem_cons_self hx]
      simp [hx]
    · rw [hkeep start x List.mem_cons_self hx]
      simp [hx]

section Parsers

variable {body : List UInt8} (hblank : ∀ record ∈ spotRecords (recordsRegion body), Blank record)
include hblank

/-- The last record with an LRI is blank, so no value comes out of it. -/
theorem last_blank {β : Type} {value : List UInt8 → Option β}
    (hvalue : ∀ record, Blank record → value record = none) (lri : UInt32) :
    (last lriOf lri (spotRecords (recordsRegion body))).bind value = none := by
  cases hlast : last lriOf lri (spotRecords (recordsRegion body)) with
  | none => rfl
  | some record => exact hvalue record (hblank record (last_mem lriOf hlast).1)

theorem parseDcBlock_blank : parseDcBlock body = ⟨none, none, none, none, none, none⟩ := by
  have hvalue : ∀ record, Blank record → i32Value28 record = none := fun _ h => h.i32Value28
  have hscaled : ∀ den record, Blank record → scaledValue28 den record = none :=
    fun den _ h => h.scaledValue28 den
  rw [← parseDcLoop_eq, parseDcLoop_eq_foldl, List.drop_zero]
  refine List.foldlRecOn
    (motive := fun out : DcPerString => out = ⟨none, none, none, none, none, none⟩) _ _ rfl ?_
  rintro out rfl record hrecord
  have hrec := hblank record hrecord
  simp only [dcDispatch, hvalue record hrec, hscaled _ record hrec, ite_self]

theorem parseCosphi_blank : parseCosphi body = none := by
  refine forEach28Record_blank (P := fun out => out = none) hblank rfl ?_
  rintro out lri dt record hrec rfl
  simp only [hrec.i32Value28, Option.map_none, ite_self]

theorem parseSingleWattsRecord_blank (lriFirst lriLast : UInt32) :
    parseSingleWattsRecord body lriFirst lriLast = none := by
  refine forEach28Record_blank (P := fun out => out = none) hblank rfl ?_
  rintro out lri dt record hrec rfl
  rw [hrec.findSome_slots, ite_self]

theorem parseGridRelay_blank : parseGridRelay body = none := by
  refine forEach28Record_blank (P := fun out => out = none) hblank rfl ?_
  rintro out lri dt record hrec rfl
  have hslot : readU32 (slice record 8 12) = i32Nan :=
    hrec.noReading.slot (by decide) (by have := hrec.length_ge; omega)
  simp only [hslot]
  split
  · rfl
  · rfl

/-- **The status parser** reports a tag as soon as there is a long enough status record. -/
theorem parseDeviceStatus_blank_iff :
    parseDeviceStatus body = none ↔ ∀ record ∈ spotRecords (recordsRegion body),
      ¬ (lriOf record = Lri.invStatus ∧ 24 ≤ record.length) := by
  rw [parseDeviceStatus, forEach28Record, foldl_eq_none_iff (a := 0)
    (c := fun record => lriOf record = Lri.invStatus ∧ 24 ≤ record.length)]
  · simp
  · intro out record hrecord hset
    have htag := (hblank record hrecord).statusTag hset.2
    rw [lriOf] at hset
    rw [if_pos hset, htag]
    rfl
  · intro out record _ hkeep
    rw [lriOf] at hkeep
    rw [if_neg hkeep]

/-- **The firmware parser** reports a version as soon as there is a full version record. -/
theorem parseSoftwareVersion_blank_iff :
    parseSoftwareVersion body = none ↔ ∀ record ∈ spotRecords (recordsRegion body),
      ¬ (lriOf record = Lri.swVersion ∧ 28 ≤ record.length) := by
  rw [parseSoftwareVersion, forEach28Record, foldl_eq_none_iff (a := versionText i32Nan)
    (c := fun record => lriOf record = Lri.swVersion ∧ 28 ≤ record.length)]
  · simp
  · intro out record hrecord hset
    have hslot : readU32 (slice record 24 28) = i32Nan :=
      (hblank record hrecord).noReading.slot (by decide) hset.2
    rw [lriOf] at hset
    rw [if_pos hset]
    simp only [hslot]
    rw [if_neg (by decide)]
  · intro out record _ hkeep
    rw [lriOf] at hkeep
    rw [if_neg hkeep]

/-- All parsers but these two return nothing. -/
theorem nothingReported_of_blank (hstatus : parseDeviceStatus body = none)
    (hversion : parseSoftwareVersion body = none) : NothingReported body := by
  have hvalue : ∀ record, Blank record → i32Value28 record = none := fun _ h => h.i32Value28
  have hscaled : ∀ den record, Blank record → scaledValue28 den record = none :=
    fun den _ h => h.scaledValue28 den
  have hlast := fun lri => last_blank hblank hvalue lri
  have hlast' := fun den lri => last_blank hblank (hscaled den) lri
  have hfreq : ∀ record, Blank record →
      ((u32Value28 record).map fun v => (⟨v.toNat, 100⟩ : Scaled)) = none := by
    intro record h
    rw [h.u32Value28, Option.map_none]
  have htotal := SpotParser.acTotalPower.parse_eq_ofRecords body
  have hpower := SpotParser.acPower.parse_eq_ofRecords body
  have hvoltage := SpotParser.acVoltage.parse_eq_ofRecords body
  have htemperature := SpotParser.temperature.parse_eq_ofRecords body
  have hfrequency := SpotParser.frequency.parse_eq_ofRecords body
  simp only [SpotParser.parse, SpotParser.ofRecords, hlast, hlast', last_blank hblank hfreq] at *
  exact
    { acTotalPower := by rw [htotal]
      acPower := by rw [hpower]; exact ⟨rfl, rfl, rfl⟩
      acVoltage := hvoltage
      dcPower := parseDcBlock_blank hblank
      dcVoltage := parseDcBlock_blank hblank
      temperature := htemperature
      frequency := hfrequency
      cosphi := parseCosphi_blank hblank
      singleWatts := parseSingleWattsRecord_blank hblank
      deviceStatus := hstatus
      gridRelay := parseGridRelay_blank hblank
      softwareVersion := hversion }

end Parsers

/-! ## When nothing is reported -/

/-- A condition that only a long enough record can meet is a condition on the full ones. -/
theorem Night.forall_visited_iff {pre tail : List UInt8} {records : List (List UInt8)}
    (h : Night pre records tail) (lri : UInt32) {n : Nat} (hlow : 20 < n) (hhigh : n ≤ 28) :
    (∀ record ∈ records ++ shortRecord tail, ¬ (lriOf record = lri ∧ n ≤ record.length)) ↔
      ∀ record ∈ records, lriOf record ≠ lri := by
  constructor
  · intro hall record hrecord heq
    have hlen := (h.full record hrecord).1
    exact hall record (List.mem_append_left _ hrecord) ⟨heq, by omega⟩
  · rintro hne record hrecord ⟨heq, hlen⟩
    rcases List.mem_append.mp hrecord with hfull | hcut
    · exact hne record hfull heq
    · rw [shortRecord] at hcut
      split at hcut
      · rw [List.mem_singleton.mp hcut, List.length_take] at hlen
        omega
      · exact absurd hcut List.not_mem_nil

/-- **When a night-time reply is free of readings**: exactly when none of its full records is a status
    record or a firmware record. -/
theorem nothingReported_iff {pre tail : List UInt8} {records : List (List UInt8)}
    (h : Night pre records tail) :
    NothingReported (pre ++ records.flatten ++ tail) ↔
      ∀ record ∈ records, lriOf record ≠ Lri.invStatus ∧ lriOf record ≠ Lri.swVersion := by
  have htail : tail.length < 28 := by
    rcases h.cut with rfl | ⟨-, hlen, -⟩
    · decide
    · omega
  have hvisited : spotRecords (recordsRegion (pre ++ records.flatten ++ tail))
      = records ++ shortRecord tail := by
    rw [List.append_assoc, recordsRegion_append h.pre_length,
      spotRecords_tiles (fun record hrecord => (h.full record hrecord).1) htail]
  have hblank : ∀ record ∈ spotRecords (recordsRegion (pre ++ records.flatten ++ tail)),
      Blank record := by
    rw [hvisited]
    exact h.blank
  have hstatus := parseDeviceStatus_blank_iff hblank
  have hversion := parseSoftwareVersion_blank_iff hblank
  rw [hvisited, h.forall_visited_iff _ (by decide) (by decide)] at hstatus hversion
  constructor
  · intro hnothing record hrecord
    exact ⟨hstatus.mp hnothing.deviceStatus record hrecord,
      hversion.mp hnothing.softwareVersion record hrecord⟩
  · intro hother
    exact nothingReported_of_blank hblank
      (hstatus.mpr fun record hrecord => (hother record hrecord).1)
      (hversion.mpr fun record hrecord => (hother record hrecord).2)

/-- A night-time record with the LRI. -/
def nightRecord (lri : UInt32) : List UInt8 := sampleRecord lri i32Nan

theorem noReading_nightRecord (lri : UInt32) : NoReading (nightRecord lri) := by
  have hlen : (nightRecord lri).length = 28 := by
    simp [nightRecord, sampleRecord]
  intro k hk
  have hk' : k = 0 ∨ k = 1 ∨ k = 2 ∨ k = 3 ∨ k = 4 := by omega
  rcases hk' with rfl | rfl | rfl | rfl | rfl <;> rfl

/-- A reply of one full frequency record and a cut voltage record. -/
theorem nothingReported_frequency :
    NothingReported (List.replicate 12 0 ++ [nightRecord Lri.gridFrequency].flatten
      ++ (nightRecord Lri.gridMsVphsA).take 20) := by
  have hnight : Night (List.replicate 12 0) [nightRecord Lri.gridFrequency]
      ((nightRecord Lri.gridMsVphsA).take 20) :=
    { pre_length := rfl
      full := by
        intro record hrecord
        rw [List.mem_singleton.mp hrecord]
        exact ⟨rfl, noReading_nightRecord _⟩
      cut := .inr ⟨by decide, by decide, (noReading_nightRecord _).take 20⟩ }
  refine (nothingReported_iff hnight).mpr ?_
  intro record hrecord
  rw [List.mem_singleton.mp hrecord]
  decide

/-- One status record in an otherwise empty night-time reply, and the status is reported as tag 0;
    one firmware record, and the version is reported as 80.00.00.N. -/
theorem sentinel_reported :
    (Night (List.replicate 12 0) [nightRecord Lri.invStatus] [] ∧
      parseDeviceStatus (List.replicate 12 0 ++ [nightRecord Lri.invStatus].flatten ++ []) = some 0) ∧
    (Night (List.replicate 12 0) [nightRecord Lri.swVersion] [] ∧
      parseSoftwareVersion (List.replicate 12 0 ++ [nightRecord Lri.swVersion].flatten ++ [])
        = some "80.00.00.N") ∧
    ¬ ∀ pre records tail, Night pre records tail → NothingReported (pre ++ records.flatten ++ tail) := by
  have hnight : ∀ lri, Night (List.replicate 12 0) [nightRecord lri] [] := by
    intro lri
    refine ⟨rfl, ?_, .inl rfl⟩
    intro record hrecord
    rw [List.mem_singleton.mp hrecord]
    exact ⟨by simp [nightRecord, sampleRecord], noReading_nightRecord lri⟩
  have hstatus : parseDeviceStatus (List.replicate 12 0 ++ [nightRecord Lri.invStatus].flatten ++ [])
      = some 0 := by decide +kernel
  have hversion : parseSoftwareVersion
      (List.replicate 12 0 ++ [nightRecord Lri.swVersion].flatten ++ []) = some "80.00.00.N" := by
    decide +kernel
  refine ⟨⟨hnight _, hstatus⟩, ⟨hnight _, hversion⟩, ?_⟩
  intro hall
  have hnone := (hall _ _ _ (hnight Lri.invStatus)).deviceStatus
  rw [hstatus] at hnone
  cases hnone

end HassSma
