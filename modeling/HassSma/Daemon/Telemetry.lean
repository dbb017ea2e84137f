/-
  The metrics and the archive of an inverter task (`run_inverter`, `publish_query_result` and `Archiver`
  in `daemon/src/main.rs`, `telemetry/src/metrics.rs`).

  What a task measures goes three ways: to MQTT, into the gauges of the metrics registry, and, if there is
  an archive, into its rows.  `Metered` is a link with a registry and an archive beside it, so a task over
  it is the task of the poll loop with the two other ways added.  Where the source writes neither, the
  functions of the poll loop are used as they are; the others are here once more, with their writes
  (`Metered.sweep` and what it is called from).

  Numbers are kept as they are read off the wire, over their denominator.  The registry and the archive
  have the wall clock they read to themselves.

  The registry and the archive are written to and never read: without them the task does the same, round
  by round (`metered_runs_alike`).
-/
import HassSma.Daemon.InStep

namespace HassSma

open Fallible History

/-! ## The registry and the archive -/

/-- One series for each entry of `inverters`. -/
structure InverterLabels where
  slot : String
  deriving DecidableEq, Repr

/-- One series for each device: the slot of its session, and its own. -/
structure DeviceLabels where
  slot : String
  device : String
  deriving DecidableEq, Repr

/-- The gauges that a device has. -/
inductive DeviceGauge where
  | acPowerWatts
  | acVoltageL1
  | acCurrentL1
  | gridFrequencyHz
  | dcPowerS1Watts
  | dcPowerS2Watts
  | inverterTemperatureC
  | energyTodayWh
  | energyLifetimeWh
  deriving DecidableEq, Repr

/-- The metrics, by their labels; a gauge that has not been set is not there. -/
structure MetricsRegistry where
  pollsTotal : InverterLabels → Nat
  pollErrorsTotal : InverterLabels → Nat
  btReconnectsTotal : InverterLabels → Nat
  handshakeErrorsTotal : InverterLabels → Nat
  inverterAwake : InverterLabels → Option Int
  lastSuccessfulPollUnix : InverterLabels → Option Int
  deviceGauge : DeviceGauge → DeviceLabels → Option Scaled

def MetricsRegistry.new : MetricsRegistry :=
  ⟨fun _ => 0, fun _ => 0, fun _ => 0, fun _ => 0, fun _ => none, fun _ => none, fun _ _ => none⟩

/-- What is handed to the archive in one `write`. -/
structure ArchiveRow where
  time : Int
  slot : String
  serial : Int
  metric : String
  value : Scaled
  deriving DecidableEq, Repr

/-- Where a task writes to besides MQTT. -/
structure Sinks where
  metrics : MetricsRegistry
  /-- Whether there is an archive, and the rows handed to it. -/
  archiving : Bool
  archived : List ArchiveRow
  wallClock : Nat → Int
  readings : Nat
  /-- The targets with a completed sweep in this tick, which only the metrics depend on. -/
  publishedThisTick : Nat

namespace Sinks

variable (s : Sinks)

def utcNow : Int := s.wallClock s.readings

/-- `gauge.get_or_create(lbl).set(value)` -/
def setGauge (label : DeviceLabels) (gauge : DeviceGauge) (value : Scaled) : Sinks :=
  { s with metrics := { s.metrics with
      deviceGauge := Function.update s.metrics.deviceGauge gauge
        (Function.update (s.metrics.deviceGauge gauge) label (some value)) } }

/-- `Archiver::record`; how the write ends, nobody asks. -/
def record (identity : InverterIdentity) (metric : String) (value : Scaled) : Sinks :=
  if s.archiving then
    { s with
      archived := s.archived ++ [⟨s.utcNow, identity.slot, identity.serial.toNat, metric, value⟩]
      readings := s.readings + 1 }
  else s

def pollError (label : InverterLabels) : Sinks :=
  { s with metrics := { s.metrics with
      pollErrorsTotal :=
        Function.update s.metrics.pollErrorsTotal label (s.metrics.pollErrorsTotal label + 1) } }

/-- A target's sweep is completed. -/
def published : Sinks := { s with publishedThisTick := s.publishedThisTick + 1 }

/-- A tick begins. -/
def tick (label : InverterLabels) : Sinks :=
  { s with
    metrics := { s.metrics with
      pollsTotal := Function.update s.metrics.pollsTotal label (s.metrics.pollsTotal label + 1) }
    publishedThisTick := 0 }

/-- A tick ends, with no broken session. -/
def ticked (label : InverterLabels) : Sinks :=
  if 0 < s.publishedThisTick then
    { s with
      metrics := { s.metrics with
        lastSuccessfulPollUnix :=
          Function.update s.metrics.lastSuccessfulPollUnix label (some (s.utcNow / 1000000000)) }
      readings := s.readings + 1 }
  else s

def reconnect (label : InverterLabels) : Sinks :=
  { s with metrics := { s.metrics with
      btReconnectsTotal :=
        Function.update s.metrics.btReconnectsTotal label (s.metrics.btReconnectsTotal label + 1) } }

def handshakeError (label : InverterLabels) : Sinks :=
  { s with metrics := { s.metrics with
      handshakeErrorsTotal := Function.update s.metrics.handshakeErrorsTotal label
        (s.metrics.handshakeErrorsTotal label + 1) } }

def setAwake (label : InverterLabels) (value : Int) : Sinks :=
  { s with metrics := { s.metrics with
      inverterAwake := Function.update s.metrics.inverterAwake label (some value) } }

/-- A new registry, and an archive or none. -/
def new (archiving : Bool) (wallClock : Nat → Int) : Sinks :=
  ⟨.new, archiving, [], wallClock, 0, 0⟩

end Sinks

/-! ## What becomes of a reply -/

/-- A value of a reply: as it is published, the gauge it sets, and the row it makes. -/
structure Sample where
  sensorKey : String
  reading : Reading
  gauge : Option (DeviceGauge × Scaled)
  row : Option (String × Scaled)

namespace Sample

/-- A value that goes to MQTT only. -/
def plain (sensorKey : String) (reading : Reading) : Sample := ⟨sensorKey, reading, none, none⟩

/-- Watts, as they are. -/
def watts (sensorKey : String) (gauge : DeviceGauge) (w : Int) : Sample :=
  ⟨sensorKey, .int w, some (gauge, ⟨w, 1⟩), none⟩

/-- Watt hours, which are published as kilowatt hours. -/
def wattHours (sensorKey : String) (gauge : DeviceGauge) (metric : String) (wh : UInt64) : Sample :=
  ⟨sensorKey, .scaled ⟨wh.toNat, 1000⟩ 3, some (gauge, ⟨wh.toNat, 1⟩), some (metric, ⟨wh.toNat, 1⟩)⟩

/-- Set the gauge, if the value has one. -/
def set (label : DeviceLabels) (s : Sample) (sinks : Sinks) : Sinks :=
  match s.gauge with
  | some (gauge, value) => sinks.setGauge label gauge value
  | none => sinks

/-- Hand the row to the archive, if the value makes one. -/
def archive (identity : InverterIdentity) (s : Sample) (sinks : Sinks) : Sinks :=
  match s.row with
  | some (metric, value) => sinks.record identity metric value
  | none => sinks

end Sample

/-- The values of a reply, in the order of `publish_query_result`. -/
def samplesOf (kind : QueryKind) (body : List UInt8) : List (Option Sample) :=
  match kind with
  | .spotAcTotalPower =>
    [(parseSpotAcTotalPower body).pacTotalW.map fun w =>
      ⟨"ac_power", .int w, some (.acPowerWatts, ⟨w, 1⟩), some ("ac_power", ⟨w, 1⟩)⟩]
  | .spotAcPower =>
    let r := parseSpotAcPower body
    [r.pac1W.map fun w => .plain "ac_power_l1" (.int w),
      r.pac2W.map fun w => .plain "ac_power_l2" (.int w),
      r.pac3W.map fun w => .plain "ac_power_l3" (.int w)]
  | .spotAcVoltage =>
    let r := parseSpotAcVoltage body
    [r.uac1V.map fun v => ⟨"ac_voltage_l1", .scaled v 2, some (.acVoltageL1, v), none⟩,
      r.uac2V.map fun v => .plain "ac_voltage_l2" (.scaled v 2),
      r.uac3V.map fun v => .plain "ac_voltage_l3" (.scaled v 2),
      r.iac1A.map fun a => ⟨"ac_current_l1", .scaled a 3, some (.acCurrentL1, a), none⟩,
      r.iac2A.map fun a => .plain "ac_current_l2" (.scaled a 3),
      r.iac3A.map fun a => .plain "ac_current_l3" (.scaled a 3)]
  | .spotDcPower =>
    let r := parseSpotDcPower body
    [r.pdc1W.map (Sample.watts "dc_power_s1" .dcPowerS1Watts),
      r.pdc2W.map (Sample.watts "dc_power_s2" .dcPowerS2Watts)]
  | .spotDcVoltage =>
    let r := parseSpotDcVoltage body
    [r.udc1V.map fun v => .plain "dc_voltage_s1" (.scaled v 2),
      r.udc2V.map fun v => .plain "dc_voltage_s2" (.scaled v 2),
      r.idc1A.map fun a => .plain "dc_current_s1" (.scaled a 3),
      r.idc2A.map fun a => .plain "dc_current_s2" (.scaled a 3)]
  | .energyProduction =>
    let (day, total) := parseEnergyProduction body
    [day.map (Sample.wattHours "energy_today" .energyTodayWh "energy_today_wh"),
      total.map (Sample.wattHours "energy_lifetime" .energyLifetimeWh "energy_lifetime_wh")]
  | .operationTime =>
    let r := parseOperationTime body
    [r.totalOpTimeS.map fun s => .plain "operation_time" (.scaled ⟨s.toNat, 3600⟩ 2),
      r.feedInTimeS.map fun s => .plain "feed_in_time" (.scaled ⟨s.toNat, 3600⟩ 2)]
  | .inverterTemperature =>
    [(parseInverterTemperature body).map fun c =>
      ⟨"temperature", .scaled c 2, some (.inverterTemperatureC, c), some ("temperature_c", c)⟩]
  | .spotGridFrequency =>
    [(parseGridFrequency body).map fun hz =>
      ⟨"grid_frequency", .scaled hz 2, some (.gridFrequencyHz, hz), some ("grid_frequency_hz", hz)⟩]
  | .deviceStatus =>
    [(parseDeviceStatus body).map fun tag => .plain "inverter_state" (.text (statusText tag))]
  | .gridRelayStatus =>
    [(parseGridRelay body).map fun closed => .plain "grid_relay" (.text (relayText closed))]
  | .spotCosPhi =>
    [(parseCosphi body).map fun cp => ⟨"cos_phi", .scaled cp 3, none, some ("cos_phi", cp)⟩]
  | _ => []

/-! ## Metered links -/

/-- A link with the sinks of its task beside it. -/
structure Metered (σ : Type) where
  link : σ
  sinks : Sinks

namespace Metered

variable {σ : Type}

/-- A question to the link, which does not touch the sinks. -/
def lift {α : Type} (f : σ → α × σ) (m : Metered σ) : α × Metered σ :=
  ((f m.link).1, { m with link := (f m.link).2 })

instance [Link σ] : Link (Metered σ) where
  queryForDevice m susyId serial kind := lift (Link.queryForDevice · susyId serial kind) m
  queryEventLogForDevice m susyId serial startUnix endUnix :=
    lift (Link.queryEventLogForDevice · susyId serial startUnix endUnix) m
  gracefulClose m := (lift (fun l => ((), Link.gracefulClose l)) m).2
  instantNow m := lift Link.instantNow m
  utcNow m := lift Link.utcNow m

/-- A step on the sinks alone. -/
def meter (f : Sinks → Sinks) : TaskM (Metered σ) Unit :=
  modify fun w => { w with link := { w.link with sinks := f w.link.sinks } }

/-! ### The program -/

/-- Set the gauge, publish, record. -/
def publishSample (cfg : MqttClientConfig) (identity : InverterIdentity) (label : DeviceLabels)
    (s : Sample) : TaskM (Metered σ) Unit := do
  meter (s.set label)
  Task.publishValue cfg identity s.sensorKey s.reading
  meter (s.archive identity)

def publishSamples (cfg : MqttClientConfig) (identity : InverterIdentity) (label : DeviceLabels) :
    List (Option Sample) → TaskM (Metered σ) Unit
  | [] => pure ()
  | none :: rest => publishSamples cfg identity label rest
  | some s :: rest => do
    publishSample cfg identity label s
    publishSamples cfg identity label rest

def publishQueryResult (cfg : MqttClientConfig) (identity : InverterIdentity) (label : DeviceLabels)
    (kind : QueryKind) (body : List UInt8) : TaskM (Metered σ) Unit :=
  publishSamples cfg identity label (samplesOf kind body)

variable [Link σ] (cfg : RunCfg)

/-- The sweep over one target, up to its first error. -/
def sweep (t : Target) : List QueryKind → TaskM (Metered σ) SweepEnd
  | [] => pure .completed
  | kind :: kinds => do
    match ← Task.queryForDevice t kind with
    | .ok body =>
      publishQueryResult cfg.mqtt t.identity ⟨cfg.slot, t.identity.slot⟩ kind body
      sweep t kinds
    | .error e =>
      meter (·.pollError ⟨cfg.slot⟩)
      if e.isSessionFatal then
        Task.publishValue cfg.mqtt t.identity "poll_status" (.text "error")
        pure .fatal
      else
        Task.publishValue cfg.mqtt t.identity "poll_status" (.text "error")
        pure .failed

/-- One target's turn; `none` if the session is broken. -/
def turn (sessionStart : Int) (t : Target) (st : PollState) :
    TaskM (Metered σ) (Option PollState) := do
  let (cooling, st) ← Task.cooldownGate t st
  if cooling then pure (some st)
  else
    match ← sweep cfg t perTickQueries with
    | .fatal => pure none
    | .completed =>
      meter Sinks.published
      let st ← Task.targetCompleted cfg.toInverterCfg sessionStart t st
      pure (some st)
    | .failed =>
      let st ← Task.targetFailed cfg.toInverterCfg t st
      pure (some st)

def turns (sessionStart : Int) : List Target → PollState → TaskM (Metered σ) (Option PollState)
  | [], st => pure (some st)
  | t :: ts, st => do
    match ← turn cfg sessionStart t st with
    | none => pure none
    | some st => turns sessionStart ts st

/-- The loop, over the ticks so far. -/
def pollLoop (targets : List Target) (sessionStart : Int) :
    Nat → PollState → TaskM (Metered σ) LoopEnd
  | 0, _ => pure .running
  | ticks + 1, st => do
    meter (·.tick ⟨cfg.slot⟩)
    let st := { st with pollCount := st.pollCount + 1 }
    if 0 < cfg.yieldEvery ∧ st.pollCount % cfg.yieldEvery = 0 then
      Task.ask fun link => ((), Link.gracefulClose link)
      let _ ← Task.ask Link.instantNow
      pure .yielded
    else
      match ← turns cfg sessionStart targets st with
      | none => pure .aborted
      | some st =>
        meter (·.ticked ⟨cfg.slot⟩)
        pollLoop targets sessionStart ticks st

/-- A session from the announcements on. -/
def pollPhase (targets : List Target) (ticks : Nat) : TaskM (Metered σ) LoopEnd := do
  Task.eventLogOneShot cfg.toInverterCfg targets
  let targets ← Task.identityOneShots cfg.toInverterCfg targets
  let sessionStart ← Task.ask Link.utcNow
  let loopEnd ← pollLoop cfg targets sessionStart ticks .new
  Task.endSession loopEnd
  pure loopEnd

end Metered

/-! ## The outer loop -/

/-- What the outcome of a session means to the loop. -/
def RunState.polled (yieldedAt : Nat) (outcome : Except Panic LoopEnd) (s : RunState) : RunState :=
  match outcome with
  | .ok .yielded => { s with postYieldDeadline := some (yieldedAt + postYieldGrace) }
  | .ok .aborted => s
  | .ok .running => { s with ended := true }
  | .error _ => { s with ended := true }

/-- The outer loop with its sinks. -/
structure MeteredState where
  run : RunState
  sinks : Sinks

namespace MeteredState

variable {σ : Type} [Link σ] (cfg : RunCfg)

/-- The loop behind a session. -/
def session (initSusy : UInt16) (initSerial : UInt32) (link : σ) (ticks yieldedAt : Nat)
    (s : MeteredState) : MeteredState :=
  let announced := s.run.loggedIn cfg initSusy initSerial link
  let result := (Metered.pollPhase cfg (s.run.targets cfg initSusy initSerial) ticks).run
    ⟨⟨link, s.sinks⟩, announced.outbox⟩
  { run := { announced with outbox := (final result).outbox }.polled yieldedAt (value result)
    sinks := (final result).link.sinks }

/-- One round, with what it writes to the metrics. -/
def round (r : Round σ) (s : MeteredState) : Option Nat × MeteredState :=
  if s.run.ended then (none, s)
  else
    let label : InverterLabels := ⟨cfg.slot⟩
    let sinks := s.sinks.reconnect label
    match r with
    | .connectFailed error now later =>
      let sinks := if isHostDown error && !s.run.inGrace now then sinks.setAwake label 0 else sinks
      let (wait, run) := s.run.connectFailed cfg error now later
      (some wait, ⟨run, sinks⟩)
    | .handshakeFailed =>
      (none, ⟨s.run.connected.handshakeFailed, (sinks.setAwake label 1).handshakeError label⟩)
    | .session initSusy initSerial link ticks yieldedAt =>
      (none, session cfg initSusy initSerial link ticks yieldedAt
        ⟨s.run.connected, sinks.setAwake label 1⟩)

end MeteredState

/-- A round in a history of one task with its sinks. -/
abbrev MeteredEntry (σ : Type) := Entry (Round σ) MeteredState (Option Nat)

/-- The rounds of a task, from its start on, with a new registry. -/
def runMetered {σ : Type} [Link σ] (cfg : RunCfg) (archiving : Bool) (wallClock : Nat → Int)
    (rounds : List (Round σ)) : List (MeteredEntry σ) :=
  history (MeteredState.round cfg) rounds ⟨cfg.start, .new archiving wallClock⟩

/-! ## Nothing depends on the sinks -/

/-- What a reply is published as, by its samples and by its readings. -/
def Matches (o : Option Sample) (p : String × Option Reading) : Prop :=
  o.map Sample.reading = p.2 ∧ ∀ s, o = some s → s.sensorKey = p.1

theorem matches_map {α : Type} {key : String} {f : α → Reading} {g : α → Sample}
    (hg : ∀ a, (g a).sensorKey = key ∧ (g a).reading = f a) (o : Option α) :
    Matches (o.map g) (key, o.map f) := by
  refine ⟨?_, ?_⟩
  · rw [Option.map_map]
    exact congrArg (o.map ·) (funext fun a => (hg a).2)
  · intro s hs
    obtain ⟨a, -, rfl⟩ := Option.map_eq_some_iff.mp hs
    exact (hg a).1

theorem samples_match (kind : QueryKind) (body : List UInt8) :
    List.Forall₂ Matches (samplesOf kind body) (readingsOf kind body) := by
  cases kind
  all_goals
    simp only [samplesOf, readingsOf]
    repeat' apply List.Forall₂.cons
  all_goals first
    | exact List.Forall₂.nil
    | exact matches_map (fun _ => by exact ⟨rfl, rfl⟩) _

namespace Metered

variable {σ : Type} [Link σ]

theorem metered_inStep :
    LinksInStep (fun _ => True) (fun (m : Metered σ) (l : σ) => m.link = l) where
  query h susyId serial kind _ := by
    subst h
    exact ⟨rfl, rfl⟩
  eventLog h susyId serial start stop _ := by
    subst h
    exact ⟨rfl, rfl⟩
  close h := by
    subst h
    rfl
  instant h := by
    subst h
    exact ⟨rfl, rfl⟩
  utc h := by
    subst h
    exact ⟨rfl, rfl⟩

/-- A task and the same task with its sinks. -/
abbrev Alongside : Task (Metered σ) → Task σ → Prop :=
  TasksInStep fun (m : Metered σ) (l : σ) => m.link = l

omit [Link σ] in
theorem lockstep_meter (f : Sinks → Sinks) {α : Type} {x : TaskM (Metered σ) α} {y : TaskM σ α}
    (h : Lockstep Alongside x y) : Lockstep Alongside (do meter f; x) y :=
  Lockstep.left (fun _ _ hw => ⟨_, rfl, hw.link, hw.outbox⟩) h

omit [Link σ] in
theorem lockstep_publishSamples (cfg : MqttClientConfig) (identity : InverterIdentity)
    (label : DeviceLabels) {samples : List (Option Sample)}
    {readings : List (String × Option Reading)} (h : List.Forall₂ Matches samples readings) :
    Lockstep Alongside (publishSamples cfg identity label samples : TaskM (Metered σ) Unit)
      (Task.publishReadings cfg identity readings : TaskM σ Unit) := by
  induction h with
  | nil => exact lockstep_pure ()
  | @cons o p samples readings hmatch _ ih =>
    obtain ⟨key, value⟩ := p
    obtain ⟨hvalue, hkey⟩ := hmatch
    cases o with
    | none =>
      obtain rfl : none = value := hvalue
      exact ih
    | some s =>
      obtain rfl : some s.reading = value := hvalue
      obtain rfl : s.sensorKey = key := hkey s rfl
      rw [publishSamples, publishSample, bind_assoc]
      refine lockstep_meter _ ?_
      rw [bind_assoc]
      exact (Task.lockstep_publishValue cfg identity _ _).bind fun _ => lockstep_meter _ ih

variable (cfg : RunCfg)

theorem lockstep_sweep (t : Target) (kinds : List QueryKind) :
    Lockstep Alongside (sweep cfg t kinds : TaskM (Metered σ) SweepEnd)
      (Task.sweep cfg.toInverterCfg t kinds : TaskM σ SweepEnd) := by
  induction kinds with
  | nil => exact lockstep_pure _
  | cons kind kinds ih =>
    refine (Task.lockstep_queryForDevice metered_inStep trivial kind).bind fun result => ?_
    cases result with
    | ok body =>
      exact (lockstep_publishSamples cfg.mqtt t.identity _ (samples_match kind body)).bind fun _ => ih
    | error e =>
      refine lockstep_meter _ ?_
      simp only
      split
      · exact (Task.lockstep_publishValue cfg.mqtt t.identity _ _).bind fun _ => lockstep_pure _
      · exact (Task.lockstep_publishValue cfg.mqtt t.identity _ _).bind fun _ => lockstep_pure _

theorem lockstep_turn (sessionStart : Int) (t : Target) (st : PollState) :
    Lockstep Alongside (turn cfg sessionStart t st : TaskM (Metered σ) (Option PollState))
      (Task.turn cfg.toInverterCfg sessionStart t st : TaskM σ (Option PollState)) := by
  refine (Task.lockstep_cooldownGate metered_inStep t st).bind fun gate => ?_
  obtain ⟨cooling, st⟩ := gate
  simp only
  split
  · exact lockstep_pure _
  · refine (lockstep_sweep cfg t perTickQueries).bind fun ending => ?_
    cases ending with
    | fatal => exact lockstep_pure _
    | completed =>
      refine lockstep_meter _ ?_
      exact (Task.lockstep_targetCompleted metered_inStep cfg.toInverterCfg sessionStart t st).bind
        fun _ => lockstep_pure _
    | failed =>
      exact (Task.lockstep_targetFailed metered_inStep cfg.toInverterCfg t st).bind
        fun _ => lockstep_pure _

theorem lockstep_turns (sessionStart : Int) (targets : List Target) (st : PollState) :
    Lockstep Alongside (turns cfg sessionStart targets st : TaskM (Metered σ) (Option PollState))
      (Task.turns cfg.toInverterCfg sessionStart targets st : TaskM σ (Option PollState)) := by
  induction targets generalizing st with
  | nil => exact lockstep_pure _
  | cons t ts ih =>
    refine (lockstep_turn cfg sessionStart t st).bind fun outcome => ?_
    cases outcome with
    | none => exact lockstep_pure _
    | some st => exact ih st

/-- The loop, by induction on the ticks. -/
theorem lockstep_pollLoop (targets : List Target) (sessionStart : Int) (ticks : Nat) (st : PollState) :
    Lockstep Alongside (pollLoop cfg targets sessionStart ticks st : TaskM (Metered σ) LoopEnd)
      (Task.pollLoop cfg.toInverterCfg targets sessionStart ticks st : TaskM σ LoopEnd) := by
  induction ticks generalizing st with
  | zero => exact lockstep_pure _
  | succ ticks ih =>
    rw [pollLoop, Task.pollLoop]
    refine lockstep_meter _ ?_
    simp only
    split
    · refine (Task.lockstep_close metered_inStep).bind fun _ => ?_
      exact (Task.lockstep_instantNow metered_inStep).bind fun _ => lockstep_pure _
    · refine (lockstep_turns cfg sessionStart targets _).bind fun outcome => ?_
      cases outcome with
      | none => exact lockstep_pure _
      | some st => exact lockstep_meter _ (ih st)

theorem lockstep_pollPhase (targets : List Target) (ticks : Nat) :
    Lockstep Alongside (pollPhase cfg targets ticks : TaskM (Metered σ) LoopEnd)
      (Task.pollPhase cfg.toInverterCfg targets ticks : TaskM σ LoopEnd) := by
  refine (Task.lockstep_eventLogOneShot metered_inStep cfg.toInverterCfg fun _ _ => trivial).bind
    fun _ => ?_
  refine (Task.lockstep_identityOneShots metered_inStep cfg.toInverterCfg fun _ _ => trivial).bind
    fun ts => ?_
  refine (Task.lockstep_utcNow metered_inStep).bind fun sessionStart => ?_
  refine (lockstep_pollLoop cfg ts sessionStart ticks .new).bind fun loopEnd => ?_
  exact (Task.lockstep_endSession metered_inStep loopEnd).bind fun _ => lockstep_pure loopEnd

end Metered

namespace MeteredState

variable {σ : Type} [Link σ] (cfg : RunCfg)

theorem session_eq_polled (initSusy : UInt16) (initSerial : UInt32) (link : σ)
    (ticks yieldedAt : Nat) (s : RunState) :
    s.session cfg initSusy initSerial link ticks yieldedAt
      = { s.loggedIn cfg initSusy initSerial link with
          outbox := (final ((Task.pollPhase cfg.toInverterCfg (s.targets cfg initSusy initSerial)
            ticks).run ⟨link, (s.loggedIn cfg initSusy initSerial link).outbox⟩)).outbox
        }.polled yieldedAt (value ((Task.pollPhase cfg.toInverterCfg
          (s.targets cfg initSusy initSerial) ticks).run
            ⟨link, (s.loggedIn cfg initSusy initSerial link).outbox⟩)) := rfl

theorem run_session (initSusy : UInt16) (initSerial : UInt32) (link : σ) (ticks yieldedAt : Nat)
    (s : MeteredState) :
    (s.session cfg initSusy initSerial link ticks yieldedAt).run
      = s.run.session cfg initSusy initSerial link ticks yieldedAt := by
  obtain ⟨hvalue, hfinal⟩ := Metered.lockstep_pollPhase cfg (s.run.targets cfg initSusy initSerial) ticks
    ⟨⟨link, s.sinks⟩, (s.run.loggedIn cfg initSusy initSerial link).outbox⟩
    ⟨link, (s.run.loggedIn cfg initSusy initSerial link).outbox⟩ ⟨rfl, rfl⟩
  rw [session_eq_polled, ← hvalue, ← hfinal.outbox]
  rfl

/-- **A round** does to the loop what it does without the sinks. -/
theorem run_round (r : Round σ) (s : MeteredState) :
    (s.round cfg r).1 = (s.run.round cfg r).1 ∧ (s.round cfg r).2.run = (s.run.round cfg r).2 := by
  unfold MeteredState.round RunState.round
  split
  · exact ⟨rfl, rfl⟩
  · cases r with
    | connectFailed error now later => exact ⟨rfl, rfl⟩
    | handshakeFailed => exact ⟨rfl, rfl⟩
    | session initSusy initSerial link ticks yieldedAt =>
      exact ⟨rfl, run_session cfg initSusy initSerial link ticks yieldedAt _⟩

end MeteredState

/-- **Nothing depends on the sinks.**  Seen without them, a run is a run of the loop that has none. -/
theorem metered_runs_alike {σ : Type} [Link σ] (cfg : RunCfg) (archiving : Bool) (wallClock : Nat → Int)
    (rounds : List (Round σ)) :
    (runMetered cfg archiving wallClock rounds).map (Entry.view MeteredState.run)
      = runInverter cfg rounds :=
  history_view (MeteredState.run_round cfg) rounds _

end HassSma
