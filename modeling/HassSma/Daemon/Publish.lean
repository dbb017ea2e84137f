/-
  What the daemon publishes of a reply (`publish_query_result` in `daemon/src/main.rs`).

  A daemon task runs against a link: the session with its outcomes, and the clocks.  Links are
  arbitrary (`Link`), and a session over a transport is one (`LiveLink`).  The task's state is the link and
  the messages handed to the MQTT client; its only way to stop in the middle is a panic.

  `Publishes x` says that `x` ends without a panic and does nothing but publish.  It passes through
  sequences, so that it is enough to look at the keys: every key under which a reply is published is
  in the catalog (`readingsOf_known`).

  Metrics, the archive and log lines are left out: nothing comes back from them.
-/
import HassSma.Client.Receive
import HassSma.Mqtt.Discovery

namespace HassSma

open Fallible

/-! ## Links -/

/-- What a poll loop works against: each operation answers and moves the link on. -/
class Link (σ : Type) where
  queryForDevice : σ → UInt16 → UInt32 → QueryKind → Except SessionError (List UInt8) × σ
  queryEventLogForDevice : σ → UInt16 → UInt32 → UInt32 → UInt32 →
    Except SessionError (List UInt8) × σ
  /-- The result of a graceful close is dropped by every caller. -/
  gracefulClose : σ → σ
  /-- The monotonic clock and the wall clock, in nanoseconds. -/
  instantNow : σ → Nat × σ
  utcNow : σ → Int × σ

/-- A session with its clocks. -/
structure LiveLink (T : Type) where
  session : Session T
  instants : Nat → Nat
  wallClock : Nat → Int
  readings : Nat

instance {T : Type} [Transport T] : Link (LiveLink T) where
  queryForDevice l susyId serial kind :=
    let result := (Session.queryForDevice susyId serial kind).run l.session
    (value result, { l with session := final result })
  queryEventLogForDevice l susyId serial startUnix endUnix :=
    let result := (Session.queryEventLogForDevice susyId serial startUnix endUnix).run l.session
    (value result, { l with session := final result })
  gracefulClose l := { l with session := final (Session.gracefulClose.run l.session) }
  instantNow l := (l.instants l.readings, { l with readings := l.readings + 1 })
  utcNow l := (l.wallClock l.readings, { l with readings := l.readings + 1 })

/-! ## The task's state -/

structure Task (σ : Type) where
  link : σ
  outbox : List Message

/-- A step of the task: it goes on, or it panics. -/
abbrev TaskM (σ : Type) := EStateM Panic (Task σ)

namespace Task

variable {σ : Type}

/-- Ask the link. -/
def ask {α : Type} (f : σ → α × σ) : TaskM σ α := fun w =>
  .ok (f w.link).1 { w with link := (f w.link).2 }

/-- Hand messages to the MQTT client, which queues them. -/
def send (ms : List Message) : TaskM σ Unit := modify fun w => { w with outbox := w.outbox ++ ms }

variable (cfg : MqttClientConfig) (identity : InverterIdentity)

def publishValue (sensorKey : String) (value : Reading) : TaskM σ Unit :=
  match cfg.publishValue identity sensorKey value with
  | .ok m => send [m]
  | .error panic => throw panic

/-- Publish the readings that are there, in order. -/
def publishReadings : List (String × Option Reading) → TaskM σ Unit
  | [] => pure ()
  | (_, none) :: rest => publishReadings rest
  | (sensorKey, some value) :: rest => do
    publishValue cfg identity sensorKey value
    publishReadings rest

end Task

/-! ## Replies -/

/-- The text of a closed or open relay. -/
def relayText (closed : Bool) : String := if closed then "closed" else "open"

/-- The keys a reply is published under, each with its reading if the reply has one. -/
def readingsOf (kind : QueryKind) (body : List UInt8) : List (String × Option Reading) :=
  match kind with
  | .spotAcTotalPower => [("ac_power", (parseSpotAcTotalPower body).pacTotalW.map .int)]
  | .spotAcPower =>
    let r := parseSpotAcPower body
    [("ac_power_l1", r.pac1W.map .int), ("ac_power_l2", r.pac2W.map .int),
      ("ac_power_l3", r.pac3W.map .int)]
  | .spotAcVoltage =>
    let r := parseSpotAcVoltage body
    [("ac_voltage_l1", r.uac1V.map (.scaled · 2)), ("ac_voltage_l2", r.uac2V.map (.scaled · 2)),
      ("ac_voltage_l3", r.uac3V.map (.scaled · 2)), ("ac_current_l1", r.iac1A.map (.scaled · 3)),
      ("ac_current_l2", r.iac2A.map (.scaled · 3)), ("ac_current_l3", r.iac3A.map (.scaled · 3))]
  | .spotDcPower =>
    let r := parseSpotDcPower body
    [("dc_power_s1", r.pdc1W.map .int), ("dc_power_s2", r.pdc2W.map .int)]
  | .spotDcVoltage =>
    let r := parseSpotDcVoltage body
    [("dc_voltage_s1", r.udc1V.map (.scaled · 2)), ("dc_voltage_s2", r.udc2V.map (.scaled · 2)),
      ("dc_current_s1", r.idc1A.map (.scaled · 3)), ("dc_current_s2", r.idc2A.map (.scaled · 3))]
  | .energyProduction =>
    let r := parseEnergyProduction body
    [("energy_today", r.1.map fun wh => .scaled ⟨wh.toNat, 1000⟩ 3),
      ("energy_lifetime", r.2.map fun wh => .scaled ⟨wh.toNat, 1000⟩ 3)]
  | .operationTime =>
    let r := parseOperationTime body
    [("operation_time", r.totalOpTimeS.map fun s => .scaled ⟨s.toNat, 3600⟩ 2),
      ("feed_in_time", r.feedInTimeS.map fun s => .scaled ⟨s.toNat, 3600⟩ 2)]
  | .inverterTemperature => [("temperature", (parseInverterTemperature body).map (.scaled · 2))]
  | .spotGridFrequency => [("grid_frequency", (parseGridFrequency body).map (.scaled · 2))]
  | .deviceStatus =>
    [("inverter_state", (parseDeviceStatus body).map fun tag => .text (statusText tag))]
  | .gridRelayStatus =>
    [("grid_relay", (parseGridRelay body).map fun closed => .text (relayText closed))]
  | .spotCosPhi => [("cos_phi", (parseCosphi body).map (.scaled · 3))]
  | _ => []

namespace Task

variable {σ : Type} (cfg : MqttClientConfig) (identity : InverterIdentity)

def publishQueryResult (kind : QueryKind) (body : List UInt8) : TaskM σ Unit :=
  publishReadings cfg identity (readingsOf kind body)

/-! ## Publishing only -/

/-- The step ends without a panic and does nothing but publish. -/
def Publishes (x : TaskM σ Unit) : Prop :=
  ∀ w, ∃ ms, x.run w = .ok () { w with outbox := w.outbox ++ ms }

theorem publishes_pure : Publishes (pure () : TaskM σ Unit) := fun w =>
  ⟨[], by rw [List.append_nil]; rfl⟩

theorem publishes_send (ms : List Message) : Publishes (send ms : TaskM σ Unit) := fun _ => ⟨ms, rfl⟩

theorem Publishes.seq {x y : TaskM σ Unit} (hx : Publishes x) (hy : Publishes y) :
    Publishes (do x; y) := by
  intro w
  obtain ⟨ms, hrun⟩ := hx w
  obtain ⟨ms', hrun'⟩ := hy { w with outbox := w.outbox ++ ms }
  refine ⟨ms ++ ms', ?_⟩
  rw [bind_of_ok hrun, hrun', List.append_assoc]

theorem publishes_value {sensorKey : String} (h : sensorKey ∈ sensorKeys) (value : Reading) :
    Publishes (publishValue cfg identity sensorKey value : TaskM σ Unit) := by
  obtain ⟨m, hm⟩ := (cfg.publishValue_eq_ok_iff identity sensorKey value).mpr h
  unfold publishValue
  rw [hm]
  exact publishes_send [m]

/-- **A key outside the catalog panics.** -/
theorem run_publishValue_unknown {sensorKey : String} (h : sensorKey ∉ sensorKeys) (value : Reading)
    (w : Task σ) :
    (publishValue cfg identity sensorKey value).run w = .error (.expect "unknown sensor key") w := by
  unfold publishValue
  rw [cfg.publishValue_unknown identity h value]
  rfl

theorem publishes_readings {readings : List (String × Option Reading)}
    (h : ∀ r ∈ readings, r.1 ∈ sensorKeys) :
    Publishes (publishReadings cfg identity readings : TaskM σ Unit) := by
  induction readings with
  | nil => exact publishes_pure
  | cons r rest ih =>
    rw [List.forall_mem_cons] at h
    obtain ⟨sensorKey, value⟩ := r
    cases value with
    | none => exact ih h.2
    | some value => exact (publishes_value cfg identity h.1 value).seq (ih h.2)

/-- Every key a reply is published under is in the catalog. -/
theorem readingsOf_known (kind : QueryKind) (body : List UInt8) :
    ∀ r ∈ readingsOf kind body, r.1 ∈ sensorKeys := by
  cases kind <;> simp only [readingsOf, List.forall_mem_cons, List.not_mem_nil, false_implies,
    implies_true, and_true] <;> decide

/-- **Publishing a reply never panics**, whatever the reply. -/
theorem publishes_queryResult (kind : QueryKind) (body : List UInt8) :
    Publishes (publishQueryResult cfg identity kind body : TaskM σ Unit) :=
  publishes_readings cfg identity (readingsOf_known kind body)

end Task

end HassSma
