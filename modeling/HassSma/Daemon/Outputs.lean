/-
  What the gauges, the archive and the topics of an inverter task say about each other.

  A measurement goes to its topic, to its gauge and into the archive, by three writes that stand next to each
  other in the source, once for each kind of reply and each value in it.  Two things can go wrong with that:
  a value goes to the gauge or into the rows of another one, or in another unit, and a step that
  stops in the middle leaves one of them behind.

  1. **Samples** — `Sample.Faithful`: a value sets the gauge and makes the row that belong to its key,
     in their unit, and no others.  All values of all replies are so (`samplesOf_faithful`).
  2. **The invariant (`Mirrored`)** — a gauge has what was published last for its device under its key, the
     rows of a metric are what was published under its key, in order, and the poll errors are counted by
     the messages that tell of them.  Publishing a faithful sample keeps it (`mirrored_sample`).
  3. **Sessions** — `SessionKeeps R`: what is kept by each thing that a session does to its task is kept by the
     whole of it (`SessionKeeps.pollPhase`); `AskKeeps R` is the part that does not count anything.
  4. **Runs** — so it holds behind every run, also one that panics (`outputs_agree`).
-/
import HassSma.Daemon.Announced
import HassSma.Daemon.Telemetry
import Mathlib.Algebra.Order.Field.Rat
import Mathlib.Tactic.Ring

namespace HassSma

open Fallible History

/-! ## Numbers -/

/-- The number itself. -/
def Scaled.toRat (v : Scaled) : ℚ := v.raw / v.den

/-- What a reading says, if it is a number. -/
def Reading.amount : Reading → Option ℚ
  | .int n => some n
  | .scaled v _ => some v.toRat
  | .text _ => none
  | .time _ => none

def Payload.amount : Payload → Option ℚ
  | .value r => r.amount
  | .config _ => none
  | .availability _ => none

namespace DeviceGauge

/-- The key under which the value of the gauge is published. -/
def key : DeviceGauge → String
  | acPowerWatts => "ac_power"
  | acVoltageL1 => "ac_voltage_l1"
  | acCurrentL1 => "ac_current_l1"
  | gridFrequencyHz => "grid_frequency"
  | dcPowerS1Watts => "dc_power_s1"
  | dcPowerS2Watts => "dc_power_s2"
  | inverterTemperatureC => "temperature"
  | energyTodayWh => "energy_today"
  | energyLifetimeWh => "energy_lifetime"

/-- How many of the gauge's units make one of the sensor's: energies are published in kWh. -/
def scale : DeviceGauge → ℚ
  | energyTodayWh => 1000
  | energyLifetimeWh => 1000
  | _ => 1

theorem key_injective : Function.Injective key := by
  intro g g' h
  cases g <;> cases g' <;> first | rfl | exact absurd h (by decide)

end DeviceGauge

/-- The metrics of the archive. -/
inductive ArchiveMetric where
  | acPower
  | energyTodayWh
  | energyLifetimeWh
  | temperatureC
  | gridFrequencyHz
  | cosPhi
  deriving DecidableEq, Repr

namespace ArchiveMetric

def name : ArchiveMetric → String
  | acPower => "ac_power"
  | energyTodayWh => "energy_today_wh"
  | energyLifetimeWh => "energy_lifetime_wh"
  | temperatureC => "temperature_c"
  | gridFrequencyHz => "grid_frequency_hz"
  | cosPhi => "cos_phi"

/-- The key under which the values of the metric are published. -/
def key : ArchiveMetric → String
  | acPower => "ac_power"
  | energyTodayWh => "energy_today"
  | energyLifetimeWh => "energy_lifetime"
  | temperatureC => "temperature"
  | gridFrequencyHz => "grid_frequency"
  | cosPhi => "cos_phi"

def scale : ArchiveMetric → ℚ
  | energyTodayWh => 1000
  | energyLifetimeWh => 1000
  | _ => 1

theorem key_injective : Function.Injective key := by
  intro m m' h
  cases m <;> cases m' <;> first | rfl | exact absurd h (by decide)

theorem name_injective : Function.Injective name := by
  intro m m' h
  cases m <;> cases m' <;> first | rfl | exact absurd h (by decide)

end ArchiveMetric

/-- The keys whose values go somewhere else, too. -/
def measuredKeys : List String :=
  ["ac_power", "ac_voltage_l1", "ac_current_l1", "grid_frequency", "dc_power_s1", "dc_power_s2",
    "temperature", "energy_today", "energy_lifetime", "cos_phi"]

theorem DeviceGauge.key_mem (g : DeviceGauge) : g.key ∈ measuredKeys := by
  cases g <;> decide

theorem ArchiveMetric.key_mem (m : ArchiveMetric) : m.key ∈ measuredKeys := by
  cases m <;> decide

/-! ## Samples -/

/-- What a part of a sample, a gauge or a row, puts under this tag. -/
def routed {ι : Type} [DecidableEq ι] (part : Option (ι × Scaled)) (tag : ι) : Option ℚ :=
  part.bind fun p => if p.1 = tag then some p.2.toRat else none

section

variable {ι κ : Type} [DecidableEq ι] (tag : κ → ι) {key : κ → String} {scale : κ → ℚ}

/-- A part that is there is routed by its key. -/
theorem routed_some {tag : κ → ι} (htag : Function.Injective tag) (hkey : Function.Injective key) (k₀ : κ)
    {v : Scaled} {r : Reading} (hr : r.amount.map (scale k₀ * ·) = some v.toRat) (k : κ) :
    routed (some (tag k₀, v)) (tag k)
      = if key k₀ = key k then r.amount.map (scale k * ·) else none := by
  by_cases h : k₀ = k
  · subst h
    rw [if_pos rfl, hr]
    exact if_pos rfl
  · rw [if_neg fun heq => h (hkey heq)]
    exact if_neg fun heq => h (htag heq)

/-- One that is not there goes nowhere, if nobody waits for the key. -/
theorem routed_none {sensorKey : String} (k : κ) (h : sensorKey ≠ key k) (r : Reading) :
    routed (none : Option (ι × Scaled)) (tag k)
      = if sensorKey = key k then r.amount.map (scale k * ·) else none :=
  (if_neg h).symm

end

namespace Sample

/-- The sample goes where its key belongs, in the right unit, and nowhere else. -/
structure Faithful (s : Sample) : Prop where
  known : s.sensorKey ∈ sensorKeys
  not_status : s.sensorKey ≠ "poll_status"
  gauge : ∀ g : DeviceGauge, routed s.gauge g
    = if s.sensorKey = g.key then s.reading.amount.map (g.scale * ·) else none
  row : ∀ m : ArchiveMetric, routed s.row m.name
    = if s.sensorKey = m.key then s.reading.amount.map (m.scale * ·) else none
  named : ∀ p, s.row = some p → ∃ m : ArchiveMetric, p.1 = m.name

/-- A value that goes to MQTT only, where no gauge and no metric waits for it. -/
theorem faithful_plain {key : String} (hknown : key ∈ sensorKeys) (hstatus : key ≠ "poll_status")
    (hkey : key ∉ measuredKeys) (r : Reading) : (plain key r).Faithful where
  known := hknown
  not_status := hstatus
  gauge g := routed_none id g (fun h : key = g.key => hkey (h ▸ g.key_mem)) r
  row m := routed_none ArchiveMetric.name m (fun h : key = m.key => hkey (h ▸ m.key_mem)) r
  named p hp := by cases hp

section

variable {g : DeviceGauge} {m : ArchiveMetric} {r : Reading} {v : Scaled}
  (hknown : g.key ∈ sensorKeys ∧ g.key ≠ "poll_status")
  (hg : r.amount.map (g.scale * ·) = some v.toRat)
include hknown hg

/-- A value with a gauge. -/
theorem faithful_gauge (hkey : ∀ m : ArchiveMetric, g.key ≠ m.key) :
    (⟨g.key, r, some (g, v), none⟩ : Sample).Faithful where
  known := hknown.1
  not_status := hknown.2
  gauge := routed_some Function.injective_id DeviceGauge.key_injective g hg
  row m := routed_none ArchiveMetric.name m (hkey m) r
  named p hp := by cases hp

/-- A value with a gauge and a row. -/
theorem faithful_both (hkey : g.key = m.key) (hm : r.amount.map (m.scale * ·) = some v.toRat) :
    (⟨g.key, r, some (g, v), some (m.name, v)⟩ : Sample).Faithful where
  known := hknown.1
  not_status := hknown.2
  gauge := routed_some Function.injective_id DeviceGauge.key_injective g hg
  row k := by
    rw [hkey]
    exact routed_some ArchiveMetric.name_injective ArchiveMetric.key_injective m hm k
  named p hp := by
    cases hp
    exact ⟨m, rfl⟩

end

/-- A value with a row. -/
theorem faithful_row {m : ArchiveMetric} {r : Reading} {v : Scaled}
    (hknown : m.key ∈ sensorKeys ∧ m.key ≠ "poll_status") (hkey : ∀ g : DeviceGauge, m.key ≠ g.key)
    (hm : r.amount.map (m.scale * ·) = some v.toRat) :
    (⟨m.key, r, none, some (m.name, v)⟩ : Sample).Faithful where
  known := hknown.1
  not_status := hknown.2
  gauge g := routed_none id g (hkey g) r
  row := routed_some ArchiveMetric.name_injective ArchiveMetric.key_injective m hm
  named p hp := by
    cases hp
    exact ⟨m, rfl⟩

/-- A number in its own unit. -/
theorem amount_plain {r : Reading} {v : Scaled} (h : r.amount = some v.toRat) :
    r.amount.map ((1 : ℚ) * ·) = some v.toRat := by
  rw [h, Option.map_some, one_mul]

/-- A thousand watt hours make a kilowatt hour. -/
theorem amount_wattHours (wh : UInt64) :
    (Reading.scaled ⟨wh.toNat, 1000⟩ 3).amount.map ((1000 : ℚ) * ·)
      = some (Scaled.mk wh.toNat 1).toRat := by
  simp only [Reading.amount, Scaled.toRat, Option.map_some, Int.cast_natCast, Nat.cast_ofNat,
    Nat.cast_one, div_one, Option.some.injEq]
  ring

theorem amount_watts (w : Int) : (Reading.int w).amount = some (Scaled.mk w 1).toRat := by
  simp [Reading.amount, Scaled.toRat]

/-- A value made from whatever there is. -/
theorem faithful_map {α : Type} {f : α → Sample} (hf : ∀ a, (f a).Faithful) (o : Option α) :
    ∀ s, o.map f = some s → s.Faithful := by
  intro s hs
  obtain ⟨a, -, rfl⟩ := Option.map_eq_some_iff.mp hs
  exact hf a

end Sample

/-- **Every value of every reply** goes where it belongs. -/
theorem samplesOf_faithful (kind : QueryKind) (body : List UInt8) :
    ∀ o ∈ samplesOf kind body, ∀ s, o = some s → s.Faithful := by
  cases kind <;> simp only [samplesOf, List.forall_mem_cons, List.not_mem_nil, false_implies,
    implies_true, and_true]
  all_goals (repeat' apply And.intro)
  all_goals refine Sample.faithful_map (fun a => ?_) _
  all_goals first
    | exact Sample.faithful_plain (by decide) (by decide) (by decide) _
    | skip
  case spotAcTotalPower =>
    exact Sample.faithful_both (g := .acPowerWatts) (m := .acPower) (by decide)
      (Sample.amount_plain (Sample.amount_watts a)) rfl (Sample.amount_plain (Sample.amount_watts a))
  case spotAcVoltage.left =>
    exact Sample.faithful_gauge (g := .acVoltageL1) (by decide) (Sample.amount_plain rfl)
      fun m => by cases m <;> decide
  case spotAcVoltage.right.right.right.left =>
    exact Sample.faithful_gauge (g := .acCurrentL1) (by decide) (Sample.amount_plain rfl)
      fun m => by cases m <;> decide
  case spotDcPower.left =>
    exact Sample.faithful_gauge (g := .dcPowerS1Watts) (by decide)
      (Sample.amount_plain (Sample.amount_watts a)) fun m => by cases m <;> decide
  case spotDcPower.right =>
    exact Sample.faithful_gauge (g := .dcPowerS2Watts) (by decide)
      (Sample.amount_plain (Sample.amount_watts a)) fun m => by cases m <;> decide
  case energyProduction.left =>
    exact Sample.faithful_both (g := .energyTodayWh) (m := .energyTodayWh) (by decide)
      (Sample.amount_wattHours a) rfl (Sample.amount_wattHours a)
  case energyProduction.right =>
    exact Sample.faithful_both (g := .energyLifetimeWh) (m := .energyLifetimeWh) (by decide)
      (Sample.amount_wattHours a) rfl (Sample.amount_wattHours a)
  case inverterTemperature =>
    exact Sample.faithful_both (g := .inverterTemperatureC) (m := .temperatureC) (by decide)
      (Sample.amount_plain rfl) rfl (Sample.amount_plain rfl)
  case spotGridFrequency =>
    exact Sample.faithful_both (g := .gridFrequencyHz) (m := .gridFrequencyHz) (by decide)
      (Sample.amount_plain rfl) rfl (Sample.amount_plain rfl)
  case spotCosPhi =>
    exact Sample.faithful_row (m := .cosPhi) (by decide) (fun g => by cases g <;> decide)
      (Sample.amount_plain rfl)

/-! ## The invariant -/

/-- Where the values of a device go under a key. -/
def valueTopic (cfg : MqttClientConfig) (device key : String) : String :=
  cfg.statePrefix ++ "/" ++ device ++ "/" ++ key

/-- The numbers published for a device under a key, in order. -/
def amountsOn (cfg : MqttClientConfig) (device key : String) (ms : List Message) : List ℚ :=
  ms.filterMap fun m => if m.topic = valueTopic cfg device key then m.payload.amount else none

/-- How often a device was said to be in error. -/
def pollErrorsIn (ms : List Message) : Nat :=
  ms.countP fun m => topicLeaf m.topic = "poll_status".toList ∧ m.payload = .value (.text "error")

/-- The numbers in the rows of a metric of a device, in order. -/
def rowsOf (device metric : String) (rows : List ArchiveRow) : List ℚ :=
  rows.filterMap fun row =>
    if row.slot = device ∧ row.metric = metric then some row.value.toRat else none

/-- The registry and the archive say what the messages say. -/
structure Mirrored (cfg : RunCfg) (archiving : Bool) (ms : List Message) (s : Sinks) : Prop where
  gauges : ∀ (g : DeviceGauge) (device : String),
    (s.metrics.deviceGauge g ⟨cfg.slot, device⟩).map Scaled.toRat
      = (amountsOn cfg.mqtt device g.key ms).getLast?.map (g.scale * ·)
  otherSlots : ∀ (g : DeviceGauge) (label : DeviceLabels), label.slot ≠ cfg.slot →
    s.metrics.deviceGauge g label = none
  archive : s.archiving = archiving
  rows : archiving = true → ∀ (m : ArchiveMetric) (device : String),
    rowsOf device m.name s.archived = (amountsOn cfg.mqtt device m.key ms).map (m.scale * ·)
  named : ∀ row ∈ s.archived, ∃ m : ArchiveMetric, row.metric = m.name
  noArchive : archiving = false → s.archived = []
  errors : s.metrics.pollErrorsTotal ⟨cfg.slot⟩ = pollErrorsIn ms

section

variable {cfg : MqttClientConfig} {device device' key key' : String}

theorem valueTopic_inj (hkey : key ∈ sensorKeys) (hkey' : key' ∈ sensorKeys) :
    valueTopic cfg device key = valueTopic cfg device' key' ↔ device = device' ∧ key = key' := by
  obtain ⟨sensor, hsensor, rfl⟩ := List.mem_map.mp hkey
  obtain ⟨sensor', hsensor', rfl⟩ := List.mem_map.mp hkey'
  let inv : InverterIdentity := ⟨device, 0, "", ""⟩
  let inv' : InverterIdentity := ⟨device', 0, "", ""⟩
  have hinj : cfg.stateTopic inv sensor = cfg.stateTopic inv' sensor'
      ↔ inv.slot = inv'.slot ∧ sensor = sensor' := cfg.stateTopic_inj hsensor hsensor'
  refine hinj.trans (and_congr_right fun _ => ⟨congrArg SensorConfig.key, fun h => ?_⟩)
  exact MqttClientConfig.sensor_ext hsensor hsensor' h

theorem topicLeaf_valueTopic (hkey : key ∈ sensorKeys) :
    topicLeaf (valueTopic cfg device key) = key.toList := by
  obtain ⟨sensor, hsensor, rfl⟩ := List.mem_map.mp hkey
  exact cfg.topicLeaf_stateTopic ⟨device, 0, "", ""⟩ hsensor

theorem measuredKeys_known : ∀ key ∈ measuredKeys, key ∈ sensorKeys := by decide

/-- A key of the catalog is published under its topic. -/
theorem run_publishValue_known {σ : Type} (identity : InverterIdentity) (hkey : key ∈ sensorKeys)
    (r : Reading) (w : Task σ) :
    (Task.publishValue cfg identity key r).run w
      = .ok () { w with
          outbox := w.outbox ++ [⟨valueTopic cfg identity.slot key, false, .value r⟩] } := by
  unfold Task.publishValue MqttClientConfig.publishValue
  cases hfind : sensorCatalog.find? fun s => s.key = key with
  | none =>
    obtain ⟨sensor, hsensor, rfl⟩ := List.mem_map.mp hkey
    exact absurd (decide_eq_true rfl) (List.find?_eq_none.mp hfind sensor hsensor)
  | some sensor =>
    have hfound := List.find?_some hfind
    obtain rfl : sensor.key = key := of_decide_eq_true hfound
    rfl

variable {ms ms' : List Message}

/-- What is no value says nothing. -/
theorem amountsOn_silent (h : ∀ m ∈ ms', ∀ r, m.payload ≠ .value r) :
    amountsOn cfg device key (ms ++ ms') = amountsOn cfg device key ms := by
  have hnone : ms'.filterMap (fun m =>
      if m.topic = valueTopic cfg device key then m.payload.amount else none) = [] := by
    rw [List.filterMap_eq_nil_iff]
    intro m hm
    split
    · cases hpayload : m.payload with
      | config c => rfl
      | availability s => rfl
      | value r => exact absurd hpayload (h m hm r)
    · rfl
  rw [amountsOn, List.filterMap_append, hnone, List.append_nil]
  rfl

theorem pollErrorsIn_silent (h : ∀ m ∈ ms', ∀ r, m.payload ≠ .value r) :
    pollErrorsIn (ms ++ ms') = pollErrorsIn ms := by
  have hnone : ms'.countP (fun m =>
      topicLeaf m.topic = "poll_status".toList ∧ m.payload = .value (.text "error")) = 0 := by
    rw [List.countP_eq_zero]
    intro m hm hdec
    exact h m hm _ (of_decide_eq_true hdec).2
  rw [pollErrorsIn, List.countP_append, hnone]
  rfl

/-- A value that is published is a number more on its own topic. -/
theorem amountsOn_value (hkey : key ∈ sensorKeys) (hkey' : key' ∈ sensorKeys) (r : Reading) :
    amountsOn cfg device key (ms ++ [⟨valueTopic cfg device' key', false, .value r⟩])
      = amountsOn cfg device key ms
        ++ if device' = device ∧ key' = key then r.amount.toList else [] := by
  rw [amountsOn, List.filterMap_append, ← amountsOn]
  congr 1
  rw [List.filterMap_cons, List.filterMap_nil]
  simp only [valueTopic_inj hkey' hkey]
  by_cases hsame : device' = device ∧ key' = key
  · simp only [if_pos hsame, Payload.amount]
    cases r.amount <;> rfl
  · simp only [if_neg hsame]

theorem pollErrorsIn_value (hkey : key ∈ sensorKeys) (r : Reading) :
    pollErrorsIn (ms ++ [⟨valueTopic cfg device key, false, .value r⟩])
      = pollErrorsIn ms + if key = "poll_status" ∧ r = .text "error" then 1 else 0 := by
  rw [pollErrorsIn, List.countP_append, ← pollErrorsIn]
  congr 1
  rw [List.countP_singleton]
  simp only [topicLeaf_valueTopic hkey, String.toList_inj, Payload.value.injEq, decide_eq_true_eq]

end

section

variable {cfg : RunCfg} {archiving : Bool} {ms : List Message} {s : Sinks}

theorem mirrored_new (archiving : Bool) (wallClock : Nat → Int) :
    Mirrored cfg archiving [] (.new archiving wallClock) where
  gauges _ _ := rfl
  otherSlots _ _ _ := rfl
  archive := rfl
  rows _ _ _ := rfl
  named := List.forall_mem_nil _
  noArchive _ := rfl
  errors := rfl

/-- What touches neither gauges nor rows nor errors. -/
theorem Mirrored.of_same {s' : Sinks} (h : Mirrored cfg archiving ms s)
    (hgauge : s'.metrics.deviceGauge = s.metrics.deviceGauge) (harchiving : s'.archiving = s.archiving)
    (harchived : s'.archived = s.archived)
    (herrors : s'.metrics.pollErrorsTotal = s.metrics.pollErrorsTotal) : Mirrored cfg archiving ms s' where
  gauges := hgauge ▸ h.gauges
  otherSlots := hgauge ▸ h.otherSlots
  archive := harchiving.trans h.archive
  rows := harchived ▸ h.rows
  named := harchived ▸ h.named
  noArchive := harchived ▸ h.noArchive
  errors := herrors ▸ h.errors

/-- Messages that are no values. -/
theorem Mirrored.silent {ms' : List Message} (h : Mirrored cfg archiving ms s)
    (hms' : ∀ m ∈ ms', ∀ r, m.payload ≠ .value r) : Mirrored cfg archiving (ms ++ ms') s where
  gauges g device := by
    rw [amountsOn_silent hms']
    exact h.gauges g device
  otherSlots := h.otherSlots
  archive := h.archive
  rows harchiving m device := by
    rw [amountsOn_silent hms']
    exact h.rows harchiving m device
  named := h.named
  noArchive := h.noArchive
  errors := by
    rw [pollErrorsIn_silent hms']
    exact h.errors

/-- A value for which no gauge and no metric waits, and that tells of no error. -/
theorem Mirrored.plain {key : String} (h : Mirrored cfg archiving ms s) (hkey : key ∈ sensorKeys)
    (hplain : key ∉ measuredKeys) {r : Reading} (hstatus : ¬ (key = "poll_status" ∧ r = .text "error"))
    (device : String) :
    Mirrored cfg archiving (ms ++ [⟨valueTopic cfg.mqtt device key, false, .value r⟩]) s := by
  have hsame : ∀ key' ∈ measuredKeys, ∀ device',
      amountsOn cfg.mqtt device' key' (ms ++ [⟨valueTopic cfg.mqtt device key, false, .value r⟩])
        = amountsOn cfg.mqtt device' key' ms := by
    intro key' hkey' device'
    have hne : ¬ (device = device' ∧ key = key') := fun heq => hplain (heq.2 ▸ hkey')
    rw [amountsOn_value (measuredKeys_known key' hkey') hkey, if_neg hne, List.append_nil]
  exact
    { gauges := fun g device' => by
        rw [hsame g.key g.key_mem]
        exact h.gauges g device'
      otherSlots := h.otherSlots
      archive := h.archive
      rows := fun harchiving m device' => by
        rw [hsame m.key m.key_mem]
        exact h.rows harchiving m device'
      named := h.named
      noArchive := h.noArchive
      errors := by
        rw [pollErrorsIn_value hkey, if_neg hstatus, Nat.add_zero]
        exact h.errors }

/-- An error that is counted and told. -/
theorem Mirrored.pollError (h : Mirrored cfg archiving ms s) (device : String) :
    Mirrored cfg archiving (ms ++ [⟨valueTopic cfg.mqtt device "poll_status", false, .value (.text "error")⟩])
      (s.pollError ⟨cfg.slot⟩) := by
  have hkey : "poll_status" ∈ sensorKeys := by decide
  have hsame : ∀ key' ∈ measuredKeys, ∀ device',
      amountsOn cfg.mqtt device' key'
          (ms ++ [⟨valueTopic cfg.mqtt device "poll_status", false, .value (.text "error")⟩])
        = amountsOn cfg.mqtt device' key' ms := by
    intro key' hkey' device'
    rw [amountsOn_value (measuredKeys_known key' hkey') hkey]
    show _ ++ (if _ then [] else []) = _
    rw [ite_self, List.append_nil]
  exact
    { gauges := fun g device' => by
        rw [hsame g.key g.key_mem]
        exact h.gauges g device'
      otherSlots := h.otherSlots
      archive := h.archive
      rows := fun harchiving m device' => by
        rw [hsame m.key m.key_mem]
        exact h.rows harchiving m device'
      named := h.named
      noArchive := h.noArchive
      errors := by
        rw [pollErrorsIn_value hkey, if_pos ⟨rfl, rfl⟩, ← h.errors]
        exact Function.update_self _ _ _ }

/-! ### A sample -/

/-- The gauges behind a sample. -/
theorem deviceGauge_set (smp : Sample) (label label' : DeviceLabels) (g : DeviceGauge) :
    ((smp.set label s).metrics.deviceGauge g label').map Scaled.toRat
      = if label' = label then
          (routed smp.gauge g).or ((s.metrics.deviceGauge g label').map Scaled.toRat)
        else (s.metrics.deviceGauge g label').map Scaled.toRat := by
  rw [Sample.set]
  cases smp.gauge with
  | none => exact (ite_self _).symm
  | some p =>
    obtain ⟨gauge, v⟩ := p
    show Option.map _ (Function.update s.metrics.deviceGauge gauge _ g label') = _
    by_cases hgauge : gauge = g
    · subst hgauge
      rw [Function.update_self]
      by_cases hlabel : label' = label
      · subst hlabel
        rw [Function.update_self, if_pos rfl, routed, Option.bind_some, if_pos rfl]
        rfl
      · rw [Function.update_of_ne hlabel, if_neg hlabel]
    · rw [Function.update_of_ne (Ne.symm hgauge), routed, Option.bind_some, if_neg hgauge]
      exact (ite_self _).symm

/-- The rows behind a sample. -/
theorem rowsOf_archive (smp : Sample) (identity : InverterIdentity) (h : s.archiving = true)
    (device metric : String) :
    rowsOf device metric (smp.archive identity s).archived
      = rowsOf device metric s.archived
        ++ if identity.slot = device then (routed smp.row metric).toList else [] := by
  rw [Sample.archive]
  cases smp.row with
  | none =>
    show _ = _ ++ (if _ then [] else [])
    rw [ite_self, List.append_nil]
  | some p =>
    obtain ⟨name, v⟩ := p
    simp only [Sinks.record, if_pos h, rowsOf, List.filterMap_append, List.filterMap_cons,
      List.filterMap_nil, routed, Option.bind_some]
    congr 1
    by_cases hdevice : identity.slot = device
    · by_cases hname : name = metric
      · rw [if_pos ⟨hdevice, hname⟩, if_pos hdevice, if_pos hname]
        rfl
      · rw [if_neg fun heq => hname heq.2, if_pos hdevice, if_neg hname]
        rfl
    · rw [if_neg fun heq => hdevice heq.1, if_neg hdevice]

theorem set_other (smp : Sample) (label : DeviceLabels) :
    (smp.set label s).archiving = s.archiving ∧ (smp.set label s).archived = s.archived ∧
      (smp.set label s).metrics.pollErrorsTotal = s.metrics.pollErrorsTotal := by
  rw [Sample.set]
  cases smp.gauge with
  | none => exact ⟨rfl, rfl, rfl⟩
  | some p => exact ⟨rfl, rfl, rfl⟩

theorem archive_other (smp : Sample) (identity : InverterIdentity) :
    (smp.archive identity s).archiving = s.archiving ∧
      (smp.archive identity s).metrics = s.metrics := by
  rw [Sample.archive]
  cases smp.row with
  | none => exact ⟨rfl, rfl⟩
  | some p =>
    simp only [Sinks.record]
    split
    · exact ⟨rfl, rfl⟩
    · exact ⟨rfl, rfl⟩

/-- What is last, if there may be one more. -/
theorem getLast?_append_toList {α : Type} (xs : List α) (o : Option α) :
    (xs ++ o.toList).getLast? = o.or xs.getLast? := by
  cases o with
  | none => simp
  | some a => simp

/-- **A faithful sample** is published, set and archived together. -/
theorem Mirrored.sample {smp : Sample} (h : Mirrored cfg archiving ms s) (hsmp : smp.Faithful)
    (identity : InverterIdentity) :
    Mirrored cfg archiving
      (ms ++ [⟨valueTopic cfg.mqtt identity.slot smp.sensorKey, false, .value smp.reading⟩])
      (smp.archive identity (smp.set ⟨cfg.slot, identity.slot⟩ s)) := by
  obtain ⟨hset_archiving, hset_archived, hset_errors⟩ := set_other (s := s) smp ⟨cfg.slot, identity.slot⟩
  obtain ⟨harchive_archiving, harchive_metrics⟩ :=
    archive_other (s := smp.set ⟨cfg.slot, identity.slot⟩ s) smp identity
  refine ⟨?_, ?_, ?_, ?_, ?_, ?_, ?_⟩
  · intro g device
    rw [harchive_metrics, deviceGauge_set, h.gauges,
      amountsOn_value (measuredKeys_known _ g.key_mem) hsmp.known, hsmp.gauge]
    simp only [DeviceLabels.mk.injEq, true_and]
    by_cases hdevice : device = identity.slot
    · rw [if_pos hdevice]
      by_cases hkey : smp.sensorKey = g.key
      · rw [if_pos hkey, if_pos ⟨hdevice.symm, hkey⟩, getLast?_append_toList]
        cases smp.reading.amount <;> rfl
      · rw [if_neg hkey, if_neg fun heq => hkey heq.2, List.append_nil, Option.none_or]
    · rw [if_neg hdevice, if_neg fun heq => hdevice heq.1.symm, List.append_nil]
  · intro g label hlabel
    have hsame := deviceGauge_set (s := s) smp ⟨cfg.slot, identity.slot⟩ label g
    rw [if_neg fun heq => hlabel (congrArg DeviceLabels.slot heq), h.otherSlots g label hlabel] at hsame
    rw [harchive_metrics]
    exact Option.map_eq_none_iff.mp hsame
  · exact harchive_archiving.trans (hset_archiving.trans h.archive)
  · intro harchiving m device
    have hon := hset_archiving.trans (h.archive.trans harchiving)
    rw [rowsOf_archive smp identity hon, hset_archived, h.rows harchiving, amountsOn_value
      (measuredKeys_known _ m.key_mem) hsmp.known, hsmp.row, List.map_append]
    congr 1
    by_cases hdevice : identity.slot = device
    · rw [if_pos hdevice]
      by_cases hkey : smp.sensorKey = m.key
      · rw [if_pos hkey, if_pos ⟨hdevice, hkey⟩]
        cases smp.reading.amount <;> rfl
      · rw [if_neg hkey, if_neg fun heq => hkey heq.2]
        rfl
    · rw [if_neg hdevice, if_neg fun heq => hdevice heq.1]
      rfl
  · intro row hrow
    rw [Sample.archive] at hrow
    cases hpart : smp.row with
    | none =>
      rw [hpart] at hrow
      exact h.named row (hset_archived ▸ hrow)
    | some p =>
      obtain ⟨name, v⟩ := p
      rw [hpart] at hrow
      simp only [Sinks.record] at hrow
      split at hrow
      · rcases List.mem_append.mp hrow with hrow | hrow
        · exact h.named row (hset_archived ▸ hrow)
        · obtain rfl := List.mem_singleton.mp hrow
          exact hsmp.named _ hpart
      · exact h.named row (hset_archived ▸ hrow)
  · intro harchiving
    have hoff := hset_archiving.trans (h.archive.trans harchiving)
    rw [Sample.archive]
    cases smp.row with
    | none => exact hset_archived.trans (h.noArchive harchiving)
    | some p =>
      simp only [Sinks.record, hoff, Bool.false_eq_true, if_false]
      exact hset_archived.trans (h.noArchive harchiving)
  · rw [harchive_metrics, hset_errors, pollErrorsIn_value hsmp.known, h.errors,
      if_neg fun heq => hsmp.not_status heq.1, Nat.add_zero]

end

/-! ## Sessions -/

/-- A value that no gauge and no metric waits for, and that tells of no error. -/
def PlainValue (key : String) (r : Reading) : Prop :=
  key ∉ measuredKeys ∧ ¬ (key = "poll_status" ∧ r = .text "error")

/-- A preorder that is kept by each question to the link, and by everything that is published. -/
structure AskKeeps {σ : Type} (cfg : RunCfg)
    (R : Task (Metered σ) → Task (Metered σ) → Prop) : Prop where
  refl : ∀ w, R w w
  trans : ∀ {w w' w''}, R w w' → R w' w'' → R w w''
  ask : ∀ {α : Type} (f : σ → α × σ), Keeps R (Task.ask (Metered.lift f))
  plain : ∀ {key : String} {r : Reading} (identity : InverterIdentity), PlainValue key r →
    Keeps R (Task.publishValue cfg.mqtt identity key r)
  sample : ∀ {smp : Sample} (identity : InverterIdentity), smp.Faithful →
    Keeps R (Metered.publishSample cfg.mqtt identity ⟨cfg.slot, identity.slot⟩ smp)

/-- And by each thing else that a session does to its task. -/
structure SessionKeeps {σ : Type} (cfg : RunCfg)
    (R : Task (Metered σ) → Task (Metered σ) → Prop) : Prop extends AskKeeps cfg R where
  pollError : ∀ identity : InverterIdentity, Keeps R (do
    Metered.meter (·.pollError ⟨cfg.slot⟩)
    Task.publishValue cfg.mqtt identity "poll_status" (.text "error"))
  published : Keeps R (Metered.meter Sinks.published)
  tick : Keeps R (Metered.meter (·.tick ⟨cfg.slot⟩))
  ticked : Keeps R (Metered.meter (·.ticked ⟨cfg.slot⟩))

namespace AskKeeps

variable {σ : Type} {cfg : RunCfg} {R : Task (Metered σ) → Task (Metered σ) → Prop}
  (h : AskKeeps cfg R)
include h

theorem pure {α : Type} (a : α) : Keeps R (Pure.pure a : TaskM (Metered σ) α) := keeps_pure h.refl a

theorem bind {α β : Type} {x : TaskM (Metered σ) α} {f : α → TaskM (Metered σ) β} (hx : Keeps R x)
    (hf : ∀ a, Keeps R (f a)) : Keeps R (x >>= f) := Keeps.bind (R := R) h.trans hx hf

theorem publishReadings (identity : InverterIdentity) {readings : List (String × Option Reading)}
    (hplain : ∀ key r, (key, some r) ∈ readings → PlainValue key r) :
    Keeps R (Task.publishReadings cfg.mqtt identity readings) := by
  induction readings with
  | nil => exact h.pure ()
  | cons p rest ih =>
    have hrest := ih fun key r hr => hplain key r (List.mem_cons_of_mem _ hr)
    obtain ⟨key, value⟩ := p
    cases value with
    | none => exact hrest
    | some r => exact h.bind (h.plain identity (hplain key r List.mem_cons_self)) fun _ => hrest

theorem publishSamples (identity : InverterIdentity) {samples : List (Option Sample)}
    (hsamples : ∀ o ∈ samples, ∀ s, o = some s → s.Faithful) :
    Keeps R (Metered.publishSamples cfg.mqtt identity ⟨cfg.slot, identity.slot⟩ samples) := by
  induction samples with
  | nil => exact h.pure ()
  | cons o rest ih =>
    rw [List.forall_mem_cons] at hsamples
    have hrest := ih hsamples.2
    cases o with
    | none => exact hrest
    | some s => exact h.bind (h.sample identity (hsamples.1 s rfl)) fun _ => hrest

/-- One reading of the nameplate. -/
theorem nameplate (identity : InverterIdentity) {key : String} (hkey : key ∉ measuredKeys)
    (hstatus : key ≠ "poll_status") (value : Option Reading) :
    Keeps R (Task.publishReadings cfg.mqtt identity [(key, value)]) := by
  refine h.publishReadings identity fun key' r hr => ?_
  obtain ⟨rfl, -⟩ := Prod.mk.inj (List.mem_singleton.mp hr)
  exact ⟨hkey, fun heq => hstatus heq.1⟩

variable [Link σ]

theorem queryForDevice (t : Target) (kind : QueryKind) : Keeps R (Task.queryForDevice t kind) :=
  h.ask (Link.queryForDevice · t.susyId t.serial kind)

theorem instantNow : Keeps R (Task.ask Link.instantNow : TaskM (Metered σ) Nat) :=
  h.ask Link.instantNow

theorem utcNow : Keeps R (Task.ask Link.utcNow : TaskM (Metered σ) Int) := h.ask Link.utcNow

theorem gracefulClose :
    Keeps R (Task.ask fun l => ((), Link.gracefulClose l) : TaskM (Metered σ) Unit) :=
  h.ask fun l => ((), Link.gracefulClose l)

theorem eventLogTargets (start stop : UInt32) (targets : List Target) :
    Keeps R (Task.eventLogTargets cfg.toInverterCfg start stop targets) := by
  induction targets with
  | nil => exact h.pure ()
  | cons t ts ih =>
    refine h.bind (h.ask (Link.queryEventLogForDevice · t.susyId t.serial start stop)) fun result => ?_
    cases result with
    | error e => exact ih
    | ok body =>
      simp only
      cases latestEvent (parseEventLogRecords body) with
      | none => exact ih
      | some latest =>
        refine h.bind (h.plain _ ⟨by decide, by simp⟩) fun _ => ?_
        refine h.bind (h.plain _ ⟨by decide, by simp⟩) fun _ => ?_
        exact h.bind (h.plain _ ⟨by decide, by simp⟩) fun _ => ih

theorem eventLogOneShot (targets : List Target) :
    Keeps R (Task.eventLogOneShot cfg.toInverterCfg targets) := by
  unfold Task.eventLogOneShot
  split
  · exact h.bind h.utcNow fun _ => h.eventLogTargets _ _ targets
  · exact h.pure ()

theorem identityOneShot (t : Target) : Keeps R (Task.identityOneShot cfg.toInverterCfg t) := by
  refine h.bind (h.queryForDevice t _) fun version => ?_
  refine h.bind (h.nameplate _ (by decide) (by decide) _) fun _ => ?_
  refine h.bind (h.plain _ ⟨by decide, by simp⟩) fun _ => ?_
  refine h.bind (h.queryForDevice t _) fun model => ?_
  refine h.bind (h.nameplate _ (by decide) (by decide) _) fun _ => ?_
  refine h.bind (h.queryForDevice t _) fun nominal => ?_
  refine h.bind (h.nameplate _ (by decide) (by decide) _) fun _ => ?_
  refine h.bind (h.queryForDevice t _) fun maxFeedIn => ?_
  exact h.bind (h.nameplate _ (by decide) (by decide) _) fun _ => h.pure _

theorem identityOneShots (targets : List Target) :
    Keeps R (Task.identityOneShots cfg.toInverterCfg targets) := by
  induction targets with
  | nil => exact h.pure []
  | cons t ts ih =>
    exact h.bind (h.identityOneShot t) fun _ => h.bind ih fun _ => h.pure _

theorem targetCompleted (sessionStart : Int) (t : Target) (st : PollState) :
    Keeps R (Task.targetCompleted cfg.toInverterCfg sessionStart t st) := by
  refine h.bind h.utcNow fun now => ?_
  refine h.bind (h.plain _ ⟨by decide, by simp⟩) fun _ => ?_
  refine h.bind (h.plain _ ⟨by decide, by simp⟩) fun _ => ?_
  refine h.bind (h.plain _ ⟨by decide, by simp⟩) fun _ => ?_
  exact h.bind (h.plain _ ⟨by decide, by simp⟩) fun _ => h.pure _

theorem targetFailed (t : Target) (st : PollState) :
    Keeps R (Task.targetFailed cfg.toInverterCfg t st) := by
  unfold Task.targetFailed
  simp only
  refine h.bind (h.plain _ ⟨by decide, by simp⟩) fun _ => ?_
  -- the counter may be at its top or not; the rest is the same
  split
  all_goals
    split
    · exact h.bind h.instantNow fun _ => h.pure _
    · exact h.pure _

theorem cooldownGate (t : Target) (st : PollState) : Keeps R (Task.cooldownGate t st) := by
  unfold Task.cooldownGate
  split
  · exact h.pure _
  · refine h.bind h.instantNow fun now => ?_
    split
    · exact h.pure _
    · exact h.pure _

end AskKeeps

namespace SessionKeeps

variable {σ : Type} [Link σ] {cfg : RunCfg} {R : Task (Metered σ) → Task (Metered σ) → Prop}
  (h : SessionKeeps cfg R)
include h

theorem sweep (t : Target) (kinds : List QueryKind) : Keeps R (Metered.sweep cfg t kinds) := by
  induction kinds with
  | nil => exact h.pure _
  | cons kind kinds ih =>
    refine h.bind (h.queryForDevice t kind) fun result => ?_
    cases result with
    | ok body => exact h.bind (h.publishSamples t.identity (samplesOf_faithful kind body)) fun _ => ih
    | error e =>
      -- the error is counted in front of the question whether it is fatal
      have herror : ∀ r : SweepEnd, Keeps R (do
          Metered.meter (·.pollError ⟨cfg.slot⟩)
          Task.publishValue cfg.mqtt t.identity "poll_status" (.text "error")
          Pure.pure r) := by
        intro r
        rw [← bind_assoc]
        exact h.bind (h.pollError t.identity) fun _ => h.pure r
      simp only
      split
      · exact herror .fatal
      · exact herror .failed

theorem turn (sessionStart : Int) (t : Target) (st : PollState) :
    Keeps R (Metered.turn cfg sessionStart t st) := by
  refine h.bind (h.cooldownGate t st) fun gate => ?_
  obtain ⟨cooling, st⟩ := gate
  cases cooling with
  | true => exact h.pure _
  | false =>
    refine h.bind (h.sweep t perTickQueries) fun ending => ?_
    cases ending with
    | fatal => exact h.pure _
    | completed =>
      exact h.bind h.published fun _ =>
        h.bind (h.targetCompleted sessionStart t st) fun _ => h.pure _
    | failed => exact h.bind (h.targetFailed t st) fun _ => h.pure _

theorem turns (sessionStart : Int) (targets : List Target) (st : PollState) :
    Keeps R (Metered.turns cfg sessionStart targets st) := by
  induction targets generalizing st with
  | nil => exact h.pure _
  | cons t ts ih =>
    refine h.bind (h.turn sessionStart t st) fun next => ?_
    cases next with
    | none => exact h.pure _
    | some st => exact ih st

theorem pollLoop (targets : List Target) (sessionStart : Int) (ticks : Nat) (st : PollState) :
    Keeps R (Metered.pollLoop cfg targets sessionStart ticks st) := by
  induction ticks generalizing st with
  | zero => exact h.pure _
  | succ ticks ih =>
    rw [Metered.pollLoop]
    refine h.bind h.tick fun _ => ?_
    simp only
    split
    · exact h.bind h.gracefulClose fun _ => h.bind h.instantNow fun _ => h.pure _
    · refine h.bind (h.turns sessionStart targets _) fun next => ?_
      cases next with
      | none => exact h.pure _
      | some st => exact h.bind h.ticked fun _ => ih st

/-- **A session** keeps it, also one that panics. -/
theorem pollPhase (targets : List Target) (ticks : Nat) :
    Keeps R (Metered.pollPhase cfg targets ticks) := by
  refine h.bind (h.eventLogOneShot targets) fun _ => ?_
  refine h.bind (h.identityOneShots targets) fun ts => ?_
  refine h.bind h.utcNow fun sessionStart => ?_
  refine h.bind (h.pollLoop ts sessionStart ticks .new) fun loopEnd => ?_
  refine h.bind ?_ fun _ => h.pure _
  unfold Task.endSession
  split
  · exact h.pure _
  · exact h.gracefulClose

end SessionKeeps

/-! ## Runs -/

section

variable {σ : Type} {cfg : RunCfg} {archiving : Bool}

/-- **A session keeps the invariant.** -/
theorem mirrored_keeps : SessionKeeps cfg fun w w' : Task (Metered σ) =>
    Mirrored cfg archiving w.outbox w.link.sinks → Mirrored cfg archiving w'.outbox w'.link.sinks where
  refl _ h := h
  trans h h' hw := h' (h hw)
  ask _ _ h := h
  plain {key r} identity hplain w h := by
    by_cases hkey : key ∈ sensorKeys
    · rw [run_publishValue_known identity hkey]
      exact h.plain hkey hplain.1 hplain.2 identity.slot
    · rw [Task.run_publishValue_unknown cfg.mqtt identity hkey]
      exact h
  sample {smp} identity hsmp w h := by
    have hmeter : ∀ (f : Sinks → Sinks) (w : Task (Metered σ)), (Metered.meter f).run w
        = .ok () { w with link := { w.link with sinks := f w.link.sinks } } := fun _ _ => rfl
    rw [Metered.publishSample, bind_of_ok (hmeter _ w),
      bind_of_ok (run_publishValue_known identity hsmp.known smp.reading _), hmeter]
    exact h.sample hsmp identity
  pollError identity w h := by
    have hmeter : (Metered.meter (·.pollError ⟨cfg.slot⟩)).run w
        = .ok () { w with link := { w.link with sinks := w.link.sinks.pollError ⟨cfg.slot⟩ } } := rfl
    rw [bind_of_ok hmeter, run_publishValue_known identity (by decide)]
    exact h.pollError identity.slot
  published _ h := h.of_same rfl rfl rfl rfl
  tick _ h := h.of_same rfl rfl rfl rfl
  ticked w h := by
    show Mirrored cfg archiving w.outbox (w.link.sinks.ticked ⟨cfg.slot⟩)
    unfold Sinks.ticked
    split
    · exact h.of_same rfl rfl rfl rfl
    · exact h

variable [Link σ]

theorem mirrored_session {s : MeteredState} (h : Mirrored cfg archiving s.run.outbox s.sinks)
    (initSusy : UInt16) (initSerial : UInt32) (link : σ) (ticks yieldedAt : Nat) :
    Mirrored cfg archiving (s.session cfg initSusy initSerial link ticks yieldedAt).run.outbox
      (s.session cfg initSusy initSerial link ticks yieldedAt).sinks := by
  have hannounced : Mirrored cfg archiving (s.run.loggedIn cfg initSusy initSerial link).outbox s.sinks := by
    rw [RunState.loggedIn_outbox]
    refine h.silent fun m hm r hr => ?_
    obtain ⟨t, -, ⟨sensor, -, rfl⟩ | rfl⟩ := mem_announcements.mp hm
    · cases hr
    · cases hr
  have hsession := mirrored_keeps.pollPhase (s.run.targets cfg initSusy initSerial) ticks
    ⟨⟨link, s.sinks⟩, (s.run.loggedIn cfg initSusy initSerial link).outbox⟩ hannounced
  have hpolled : ∀ (r : RunState) (outcome : Except Panic LoopEnd),
      (r.polled yieldedAt outcome).outbox = r.outbox := by
    intro r outcome
    unfold RunState.polled
    split <;> rfl
  show Mirrored cfg archiving (RunState.polled yieldedAt _ _).outbox _
  rw [hpolled]
  exact hsession

/-- **Every round** keeps it. -/
theorem mirrored_round {s : MeteredState} (h : Mirrored cfg archiving s.run.outbox s.sinks) (r : Round σ) :
    Mirrored cfg archiving (s.round cfg r).2.run.outbox (s.round cfg r).2.sinks := by
  cases hended : s.run.ended with
  | true =>
    rw [MeteredState.round, if_pos hended]
    exact h
  | false =>
    have hlabel : Mirrored cfg archiving s.run.outbox (s.sinks.reconnect ⟨cfg.slot⟩) := h.of_same rfl rfl rfl rfl
    have hawake : ∀ value, Mirrored cfg archiving s.run.outbox
        ((s.sinks.reconnect ⟨cfg.slot⟩).setAwake ⟨cfg.slot⟩ value) :=
      fun value => hlabel.of_same rfl rfl rfl rfl
    have hnot : ¬ s.run.ended = true := by simp [hended]
    rw [MeteredState.round, if_neg hnot]
    cases r with
    | connectFailed error now later =>
      show Mirrored cfg archiving (s.run.connectFailed cfg error now later).2.outbox (if _ then _ else _)
      have hsinks : Mirrored cfg archiving s.run.outbox
          (if isHostDown error && !s.run.inGrace now
            then (s.sinks.reconnect ⟨cfg.slot⟩).setAwake ⟨cfg.slot⟩ 0
            else s.sinks.reconnect ⟨cfg.slot⟩) := by
        split
        · exact hawake 0
        · exact hlabel
      obtain ⟨-, ⟨-, -, -, hbox⟩ | ⟨-, -, -, hbox, -⟩ | ⟨-, -, -, -, -, hbox⟩⟩ :=
        RunState.connectFailed_cases cfg error now later s.run rfl
      · rw [hbox]
        exact hsinks
      · rw [hbox]
        exact hsinks
      · rw [hbox]
        refine hsinks.silent fun m hm r hr => ?_
        obtain ⟨inv, -, rfl⟩ := List.mem_map.mp hm
        cases hr
    | handshakeFailed =>
      show Mirrored cfg archiving s.run.connected.handshakeFailed.outbox _
      rw [RunState.handshakeFailed_outbox, RunState.connected_outbox]
      exact (hawake 1).of_same rfl rfl rfl rfl
    | session initSusy initSerial link ticks yieldedAt =>
      exact mirrored_session (hawake 1) initSusy initSerial link ticks yieldedAt

/-- **The outputs agree.**  In every run of an inverter task, whatever its inverters answer and also if
    it panics: without registry and archive it would have published the same; every gauge has what
    was published last for its device under its key, and is not there if nothing was; the rows of
    a metric are what was published under its key, in order, if there is an archive; the poll errors are
    counted by the messages that tell of them; and energies are in Wh where the topics have kWh. -/
theorem outputs_agree (cfg : RunCfg) (archiving : Bool) (wallClock : Nat → Int)
    (rounds : List (Round σ)) :
    (runMetered cfg archiving wallClock rounds).map (Entry.view MeteredState.run)
        = runInverter cfg rounds ∧
      ∀ e ∈ runMetered cfg archiving wallClock rounds, Mirrored cfg archiving e.after.run.outbox e.after.sinks := by
  refine ⟨metered_runs_alike cfg archiving wallClock rounds, fun e he => ?_⟩
  obtain ⟨pre, post, hsplit⟩ := List.append_of_mem he
  have hbefore : Mirrored cfg archiving e.before.run.outbox e.before.sinks :=
    history_before (I := fun _ (s : MeteredState) => Mirrored cfg archiving s.run.outbox s.sinks)
      (fun _ r _ h => mirrored_round h r) (mirrored_new archiving wallClock) hsplit
  rw [eq_entry_of_mem he]
  exact mirrored_round hbefore e.call

end

end HassSma
