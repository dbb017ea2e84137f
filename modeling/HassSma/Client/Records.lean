/-
  The two loops over spot records (`inverter-client/src/values.rs`).

  `for_each_28_record` walks the region by position: 28 bytes at a time, 20 where fewer than 28 are
  left, and it stops where fewer than 20 are.  The DC parser has a loop of its own with the same
  arithmetic.  Both are written out here as they stand in the source, and both visit `spotRecords` of
  the region (`forEach28Loop_eq`, `parseDcLoop_eq`), so the DC parser is a fold over what the shared
  loop visits (`parseDcBlock_agrees`).

  What is visited is a matter of lengths only: full records tile the region whatever is in them, and
  the tail counts as a record if twenty bytes of it are there (`visited28_tiles`).  From there on the
  parsers are folds in which the last record with an LRI wins (`LastWins`), so neither records
  with other LRIs nor the order of distinct ones has any effect (`spot_values_by_record`).
-/
import HassSma.Client.Values
import HassSma.Lib.LastWins

namespace HassSma

open Bytes LastWins

/-! ## The loops by position -/

/-- What a visitor of a record is handed: its LRI, its time and its bytes. -/
structure Visit where
  lri : UInt32
  dt : UInt32
  record : List UInt8
  deriving DecidableEq, Repr

def visitOf (record : List UInt8) : Visit :=
  ⟨recordLri (readU32 (slice record 0 4)), readU32 (slice record 4 8), record⟩

/-- The loop of `for_each_28_record`, from position `i` on. -/
def forEach28Loop {α : Type} (f : α → UInt32 → UInt32 → List UInt8 → α) (region : List UInt8)
    (i : Nat) (out : α) : α :=
  if i + 20 ≤ region.length then
    let remaining := region.length - i
    let stride := if 28 ≤ remaining then 28 else 20
    let record := slice region i (i + stride)
    let code := readU32 (slice record 0 4)
    let dt := readU32 (slice record 4 8)
    forEach28Loop f region (i + stride) (f out (recordLri code) dt record)
  else out
termination_by region.length - i
decreasing_by
  split <;> omega

/-- The `match` of the DC parser, on LRI and string number. -/
def dcDispatch (out : DcPerString) (lri cls : UInt32) (record : List UInt8) : DcPerString :=
  if lri = Lri.dcMsWatt ∧ cls = 1 then { out with pdc1W := i32Value28 record }
  else if lri = Lri.dcMsWatt ∧ cls = 2 then { out with pdc2W := i32Value28 record }
  else if lri = Lri.dcMsVol ∧ cls = 1 then { out with udc1V := scaledValue28 100 record }
  else if lri = Lri.dcMsVol ∧ cls = 2 then { out with udc2V := scaledValue28 100 record }
  else if lri = Lri.dcMsAmp ∧ cls = 1 then { out with idc1A := scaledValue28 1000 record }
  else if lri = Lri.dcMsAmp ∧ cls = 2 then { out with idc2A := scaledValue28 1000 record }
  else out

/-- The DC parser's own loop, from position `i` on. -/
def parseDcLoop (region : List UInt8) (i : Nat) (out : DcPerString) : DcPerString :=
  if i + 20 ≤ region.length then
    let remaining := region.length - i
    let stride := if 28 ≤ remaining then 28 else 20
    let record := slice region i (i + stride)
    let code := readU32 (slice record 0 4)
    let lri := recordLri code
    let cls := code &&& 0xFF
    parseDcLoop region (i + stride) (dcDispatch out lri cls record)
  else out
termination_by region.length - i
decreasing_by
  split <;> omega

/-- The records that `for_each_28_record` visits, in order. -/
def visited28 (body : List UInt8) : List Visit :=
  forEach28Loop (fun seen lri dt record => seen ++ [⟨lri, dt, record⟩]) (recordsRegion body) 0 []

/-! ## What the loops visit -/

/-- The record at position `i`, and what is left behind it. -/
theorem spotRecords_drop {region : List UInt8} {i : Nat} (h : i + 20 ≤ region.length) :
    spotRecords (region.drop i)
      = slice region i (i + if 28 ≤ region.length - i then 28 else 20)
        :: spotRecords (region.drop (i + if 28 ≤ region.length - i then 28 else 20)) := by
  have hlen : (region.drop i).length = region.length - i := List.length_drop
  rw [spotRecords_cons (show 20 ≤ (region.drop i).length by omega), hlen, slice_add, List.drop_drop]

section

variable {α : Type} (f : α → UInt32 → UInt32 → List UInt8 → α)

theorem forEach28Loop_eq_foldl (region : List UInt8) (i : Nat) (out : α) :
    forEach28Loop f region i out
      = (spotRecords (region.drop i)).foldl
        (fun out record => f out (recordLri (readU32 (slice record 0 4))) (readU32 (slice record 4 8)) record)
        out := by
  fun_induction forEach28Loop f region i out with
  | case1 i out hmore remaining stride record code dt ih =>
    rw [spotRecords_drop hmore, List.foldl_cons]
    exact ih
  | case2 i out hmore =>
    have hnil : spotRecords (region.drop i) = [] :=
      spotRecords_nil (by rw [List.length_drop]; omega)
    rw [hnil]
    rfl

/-- **The shared loop** is the fold over the spot records. -/
theorem forEach28Loop_eq (body : List UInt8) (start : α) :
    forEach28Loop f (recordsRegion body) 0 start = forEach28Record body f start :=
  forEach28Loop_eq_foldl f (recordsRegion body) 0 start

end

theorem parseDcLoop_eq_foldl (region : List UInt8) (i : Nat) (out : DcPerString) :
    parseDcLoop region i out
      = (spotRecords (region.drop i)).foldl (fun out record => dcDispatch out
        (recordLri (readU32 (slice record 0 4))) (readU32 (slice record 0 4) &&& 0xFF) record) out := by
  fun_induction parseDcLoop region i out with
  | case1 i out hmore remaining stride record code lri cls ih =>
    rw [spotRecords_drop hmore, List.foldl_cons]
    exact ih
  | case2 i out hmore =>
    have hnil : spotRecords (region.drop i) = [] :=
      spotRecords_nil (by rw [List.length_drop]; omega)
    rw [hnil]
    rfl

/-- **The DC parser's loop** is the fold over the same records. -/
theorem parseDcLoop_eq (body : List UInt8) :
    parseDcLoop (recordsRegion body) 0 ⟨none, none, none, none, none, none⟩ = parseDcBlock body :=
  parseDcLoop_eq_foldl (recordsRegion body) 0 _

theorem visited28_eq (body : List UInt8) :
    visited28 body = (spotRecords (recordsRegion body)).map visitOf := by
  have happend : ∀ (recs : List (List UInt8)) (seen : List Visit),
      recs.foldl (fun seen record => seen ++ [visitOf record]) seen = seen ++ recs.map visitOf := by
    intro recs
    induction recs with
    | nil => exact fun seen => (List.append_nil seen).symm
    | cons record recs ih =>
      intro seen
      rw [List.foldl_cons, ih, List.map_cons, List.append_assoc, List.singleton_append]
  rw [visited28, forEach28Loop_eq]
  exact happend _ []

/-- **The two loops agree** on every body: the DC parser folds its dispatch over the records that
    `for_each_28_record` visits. -/
theorem parseDcBlock_agrees (body : List UInt8) :
    parseDcLoop (recordsRegion body) 0 ⟨none, none, none, none, none, none⟩
      = (visited28 body).foldl (fun out v =>
        dcDispatch out v.lri (readU32 (slice v.record 0 4) &&& 0xFF) v.record)
        ⟨none, none, none, none, none, none⟩ := by
  rw [parseDcLoop_eq, visited28_eq, List.foldl_map]
  rfl

/-! ## Full records and a tail -/

/-- What a tail of fewer than 28 bytes contributes: its first twenty bytes, if they are there. -/
def shortRecord (tail : List UInt8) : List (List UInt8) :=
  if 20 ≤ tail.length then [tail.take 20] else []

theorem spotRecords_tail {tail : List UInt8} (htail : tail.length < 28) :
    spotRecords tail = shortRecord tail := by
  rw [shortRecord]
  by_cases hlen : 20 ≤ tail.length
  · have hrest : (tail.drop 20).length < 20 := by
      rw [List.length_drop]
      omega
    rw [if_pos hlen, spotRecords_cons hlen, if_neg (show ¬ 28 ≤ tail.length by omega),
      spotRecords_nil hrest]
  · rw [if_neg hlen, spotRecords_nil (Nat.not_le.mp hlen)]

/-- **Full records tile the region**, whatever is in them. -/
theorem spotRecords_tiles {records : List (List UInt8)} (hfull : ∀ record ∈ records, record.length = 28)
    {tail : List UInt8} (htail : tail.length < 28) :
    spotRecords (records.flatten ++ tail) = records ++ shortRecord tail := by
  induction records with
  | nil => exact spotRecords_tail htail
  | cons record records ih =>
    rw [List.forall_mem_cons] at hfull
    have hlen : 28 ≤ ((record :: records).flatten ++ tail).length := by
      rw [List.flatten_cons, List.length_append, List.length_append, hfull.1]
      omega
    rw [spotRecords_cons (by omega), if_pos hlen, List.flatten_cons, List.append_assoc, ← hfull.1,
      List.take_left, List.drop_left, ih hfull.2, List.cons_append]

theorem recordsRegion_append {pre : List UInt8} (hpre : pre.length = 12) (region : List UInt8) :
    recordsRegion (pre ++ region) = region := by
  rw [recordsRegion, if_pos (by rw [List.length_append]; omega), ← hpre, List.drop_left]

/-- **What the shared loop visits** behind a 12-byte prefix. -/
theorem visited28_tiles {pre tail : List UInt8} {records : List (List UInt8)}
    (hpre : pre.length = 12) (hfull : ∀ record ∈ records, record.length = 28)
    (htail : tail.length < 28) :
    visited28 (pre ++ records.flatten ++ tail) = (records ++ shortRecord tail).map visitOf := by
  rw [visited28_eq, List.append_assoc, recordsRegion_append hpre, spotRecords_tiles hfull htail]

/-! ## The last record wins -/

/-- The LRI of a record. -/
def lriOf (record : List UInt8) : UInt32 := recordLri (readU32 (slice record 0 4))

/-- The time of a record. -/
def timeOf (record : List UInt8) : UInt32 := readU32 (slice record 4 8)

/-- The parsers of spot values that keep the last record of each of their LRIs. -/
inductive SpotParser where
  | acTotalPower
  | acPower
  | acVoltage
  | temperature
  | frequency
  deriving DecidableEq, Repr

namespace SpotParser

/-- What the parser returns. -/
abbrev Result : SpotParser → Type
  | acTotalPower => InverterReadings
  | acPower => AcPerPhase
  | acVoltage => AcVoltageCurrent
  | temperature => Option Scaled
  | frequency => Option Scaled

def parse : (p : SpotParser) → List UInt8 → p.Result
  | acTotalPower => parseSpotAcTotalPower
  | acPower => parseSpotAcPower
  | acVoltage => parseSpotAcVoltage
  | temperature => parseInverterTemperature
  | frequency => parseGridFrequency

/-- The LRIs that the parser looks for. -/
def lris : SpotParser → List UInt32
  | acTotalPower => [Lri.spotPacTotal]
  | acPower => [Lri.gridMsWPhsA, Lri.gridMsWPhsB, Lri.gridMsWPhsC]
  | acVoltage => [Lri.gridMsVphsA, Lri.gridMsVphsB, Lri.gridMsVphsC, Lri.gridMsAphsA, Lri.gridMsAphsB,
      Lri.gridMsAphsC]
  | temperature => [Lri.invTemperature]
  | frequency => [Lri.gridFrequency]

/-- What the parser is for: each field is the value of the record that stands for its LRI. -/
def ofRecords : (p : SpotParser) → (UInt32 → Option (List UInt8)) → p.Result
  | acTotalPower, record =>
    { pacTotalW := (record Lri.spotPacTotal).bind i32Value28
      timestamp := (record Lri.spotPacTotal).map timeOf }
  | acPower, record =>
    { pac1W := (record Lri.gridMsWPhsA).bind i32Value28
      pac2W := (record Lri.gridMsWPhsB).bind i32Value28
      pac3W := (record Lri.gridMsWPhsC).bind i32Value28
      timestamp := (record Lri.gridMsWPhsA).map timeOf }
  | acVoltage, record =>
    { uac1V := (record Lri.gridMsVphsA).bind (scaledValue28 100)
      uac2V := (record Lri.gridMsVphsB).bind (scaledValue28 100)
      uac3V := (record Lri.gridMsVphsC).bind (scaledValue28 100)
      iac1A := (record Lri.gridMsAphsA).bind (scaledValue28 1000)
      iac2A := (record Lri.gridMsAphsB).bind (scaledValue28 1000)
      iac3A := (record Lri.gridMsAphsC).bind (scaledValue28 1000) }
  | temperature, record => (record Lri.invTemperature).bind (scaledValue28 100)
  | frequency, record =>
    (record Lri.gridFrequency).bind fun bytes => (u32Value28 bytes).map fun v => ⟨v.toNat, 100⟩

/-- One visit of the parser's closure. -/
def visit : (p : SpotParser) → p.Result → List UInt8 → p.Result
  | acTotalPower, out, record =>
    if lriOf record = Lri.spotPacTotal then
      { out with pacTotalW := i32Value28 record, timestamp := some (timeOf record) }
    else out
  | acPower, out, record =>
    if lriOf record = Lri.gridMsWPhsA then
      { out with pac1W := i32Value28 record, timestamp := some (timeOf record) }
    else if lriOf record = Lri.gridMsWPhsB then { out with pac2W := i32Value28 record }
    else if lriOf record = Lri.gridMsWPhsC then { out with pac3W := i32Value28 record }
    else out
  | acVoltage, out, record =>
    if lriOf record = Lri.gridMsVphsA then { out with uac1V := scaledValue28 100 record }
    else if lriOf record = Lri.gridMsVphsB then { out with uac2V := scaledValue28 100 record }
    else if lriOf record = Lri.gridMsVphsC then { out with uac3V := scaledValue28 100 record }
    else if lriOf record = Lri.gridMsAphsA then { out with iac1A := scaledValue28 1000 record }
    else if lriOf record = Lri.gridMsAphsB then { out with iac2A := scaledValue28 1000 record }
    else if lriOf record = Lri.gridMsAphsC then { out with iac3A := scaledValue28 1000 record }
    else out
  | temperature, out, record =>
    if lriOf record = Lri.invTemperature then scaledValue28 100 record else out
  | frequency, out, record =>
    if lriOf record = Lri.gridFrequency then (u32Value28 record).map fun v => ⟨v.toNat, 100⟩ else out

/-- A parser is the fold of its visits over the spot records. -/
theorem parse_eq_foldl (p : SpotParser) (body : List UInt8) :
    p.parse body
      = (spotRecords (recordsRegion body)).foldl p.visit (p.ofRecords fun _ => none) := by
  cases p <;> rfl

/-- **One visit** replaces the record kept under its LRI. -/
theorem visit_ofRecords (p : SpotParser) (kept : UInt32 → Option (List UInt8)) (record : List UInt8) :
    p.visit (p.ofRecords kept) record
      = p.ofRecords fun lri => if lriOf record = lri then some record else kept lri := by
  cases p with
  | acTotalPower =>
    simp only [visit, ofRecords]
    split <;> simp
  | acPower =>
    simp only [visit, ofRecords]
    split_ifs <;> simp_all [Lri.gridMsWPhsA, Lri.gridMsWPhsB, Lri.gridMsWPhsC]
  | acVoltage =>
    simp only [visit, ofRecords]
    split_ifs <;> simp_all [Lri.gridMsVphsA, Lri.gridMsVphsB, Lri.gridMsVphsC, Lri.gridMsAphsA,
      Lri.gridMsAphsB, Lri.gridMsAphsC]
  | temperature =>
    simp only [visit, ofRecords]
    split <;> simp
  | frequency =>
    simp only [visit, ofRecords]
    split <;> simp

/-- The parser asks for the records of its own LRIs only. -/
theorem ofRecords_congr {p : SpotParser} {kept kept' : UInt32 → Option (List UInt8)}
    (h : ∀ lri ∈ p.lris, kept lri = kept' lri) : p.ofRecords kept = p.ofRecords kept' := by
  cases p with
  | acTotalPower =>
    have h₁ := h Lri.spotPacTotal (by decide)
    simp only [ofRecords, h₁]
  | acPower =>
    have h₁ := h Lri.gridMsWPhsA (by decide)
    have h₂ := h Lri.gridMsWPhsB (by decide)
    have h₃ := h Lri.gridMsWPhsC (by decide)
    simp only [ofRecords, h₁, h₂, h₃]
  | acVoltage =>
    have h₁ := h Lri.gridMsVphsA (by decide)
    have h₂ := h Lri.gridMsVphsB (by decide)
    have h₃ := h Lri.gridMsVphsC (by decide)
    have h₄ := h Lri.gridMsAphsA (by decide)
    have h₅ := h Lri.gridMsAphsB (by decide)
    have h₆ := h Lri.gridMsAphsC (by decide)
    simp only [ofRecords, h₁, h₂, h₃, h₄, h₅, h₆]
  | temperature =>
    have h₁ := h Lri.invTemperature (by decide)
    simp only [ofRecords, h₁]
  | frequency =>
    have h₁ := h Lri.gridFrequency (by decide)
    simp only [ofRecords, h₁]

/-- **A parser keeps the last record of each of its LRIs.** -/
theorem parse_eq_ofRecords (p : SpotParser) (body : List UInt8) :
    p.parse body
      = p.ofRecords fun lri => last lriOf lri (spotRecords (recordsRegion body)) := by
  rw [parse_eq_foldl]
  exact foldl_eq_ofLast lriOf rfl p.visit_ofRecords _

/-- The same on full records and a tail. -/
theorem parse_tiles (p : SpotParser) {pre tail : List UInt8} {records : List (List UInt8)}
    (hpre : pre.length = 12) (hfull : ∀ record ∈ records, record.length = 28)
    (htail : tail.length < 28) :
    p.parse (pre ++ records.flatten ++ tail)
      = p.ofRecords fun lri => last lriOf lri (records ++ shortRecord tail) := by
  rw [parse_eq_ofRecords, List.append_assoc, recordsRegion_append hpre,
    spotRecords_tiles hfull htail]

/-- Records with other LRIs have no effect, at whichever boundary they stand. -/
theorem parse_insert (p : SpotParser) {pre tail : List UInt8} {front inserted back : List (List UInt8)}
    (hpre : pre.length = 12) (hfull : ∀ record ∈ front ++ back, record.length = 28)
    (htail : tail.length < 28)
    (hother : ∀ record ∈ inserted, record.length = 28 ∧ lriOf record ∉ p.lris) :
    p.parse (pre ++ (front ++ inserted ++ back).flatten ++ tail)
      = p.parse (pre ++ (front ++ back).flatten ++ tail) := by
  have hfull' : ∀ record ∈ front ++ inserted ++ back, record.length = 28 := by
    intro record hrecord
    rcases List.mem_append.mp hrecord with hfront | hback
    · rcases List.mem_append.mp hfront with hfront | hinserted
      · exact hfull record (List.mem_append_left _ hfront)
      · exact (hother record hinserted).1
    · exact hfull record (List.mem_append_right _ hback)
  rw [p.parse_tiles hpre hfull' htail, p.parse_tiles hpre hfull htail]
  apply ofRecords_congr
  intro lri hlri
  have hne : ∀ record ∈ inserted, lriOf record ≠ lri := by
    intro record hrecord heq
    exact (hother record hrecord).2 (heq ▸ hlri)
  rw [List.append_assoc, last_insert lriOf hne, List.append_assoc]

/-- Nor has the order of full records with distinct LRIs. -/
theorem parse_perm (p : SpotParser) {pre tail : List UInt8} {records records' : List (List UInt8)}
    (hpre : pre.length = 12) (hfull : ∀ record ∈ records, record.length = 28)
    (htail : tail.length < 28) (hperm : records.Perm records')
    (hdistinct : records.Pairwise fun a b => lriOf a ≠ lriOf b) :
    p.parse (pre ++ records'.flatten ++ tail) = p.parse (pre ++ records.flatten ++ tail) := by
  have hfull' : ∀ record ∈ records', record.length = 28 :=
    fun record hrecord => hfull record (hperm.mem_iff.mpr hrecord)
  rw [p.parse_tiles hpre hfull' htail, p.parse_tiles hpre hfull htail]
  apply ofRecords_congr
  intro lri _
  rw [last_append, last_append, last_perm lriOf hperm hdistinct]

end SpotParser

/-- **Spot values are read record by record.**  Behind the prefix the full records are visited in order,
    and the tail if it has twenty bytes; each field is the value of the last one with its LRI.  So
    records with other LRIs may stand anywhere between, and the full ones in any order if their LRIs
    are distinct. -/
theorem spot_values_by_record {pre tail : List UInt8} {records : List (List UInt8)}
    (hpre : pre.length = 12) (hfull : ∀ record ∈ records, record.length = 28)
    (htail : tail.length < 28) :
    visited28 (pre ++ records.flatten ++ tail) = (records ++ shortRecord tail).map visitOf ∧
    ∀ p : SpotParser,
      p.parse (pre ++ records.flatten ++ tail)
        = p.ofRecords (fun lri => last lriOf lri (records ++ shortRecord tail)) ∧
      (∀ front inserted back, records = front ++ back →
        (∀ record ∈ inserted, record.length = 28 ∧ lriOf record ∉ p.lris) →
        p.parse (pre ++ (front ++ inserted ++ back).flatten ++ tail)
          = p.parse (pre ++ records.flatten ++ tail)) ∧
      (∀ records', records.Perm records' →
        records.Pairwise (fun a b => lriOf a ≠ lriOf b) →
        p.parse (pre ++ records'.flatten ++ tail) = p.parse (pre ++ records.flatten ++ tail)) := by
  refine ⟨visited28_tiles hpre hfull htail, ?_⟩
  intro p
  refine ⟨p.parse_tiles hpre hfull htail, ?_, ?_⟩
  · rintro front inserted back rfl hother
    exact p.parse_insert hpre hfull htail hother
  · intro records' hperm hdistinct
    exact p.parse_perm hpre hfull htail hperm hdistinct

/-- A record with the LRI, the time 5 and one word in all its slots. -/
def sampleRecord (lri value : UInt32) : List UInt8 :=
  writeU32 lri ++ writeU32 5 ++ (List.replicate 5 (writeU32 value)).flatten

/-- The power of two phases, a cut record of the second one behind them. -/
theorem spot_values_by_record_phases :
    SpotParser.acPower.parse (List.replicate 12 0
        ++ [sampleRecord Lri.gridMsWPhsA 100, sampleRecord Lri.gridMsWPhsB 200].flatten
        ++ (sampleRecord Lri.gridMsWPhsB 300).take 22)
      = { pac1W := some 100, pac2W := some 300, pac3W := none, timestamp := some 5 } :=
  ((spot_values_by_record (by decide) (by decide) (by decide)).2 .acPower).1.trans (by decide)

end HassSma
