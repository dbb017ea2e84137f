/-
  The poll loop of one inverter task (`run_inverter` in `daemon/src/main.rs`), from the handshake to the
  end of the session.

  A session life is: announce the targets, one-shot queries (the event log if it is switched on, then
  identity and nameplate), and then ticks.  A tick yields the session to a peer every so often;
  otherwise every target has its turn, a sweep of twelve queries unless it is in cooldown.  A
  session-fatal error ends the life, any other error ends the target's turn.

  Everything is published by sensor key.  Up to the first turn that is not cut short by a fatal error
  all keys are in the catalog (`reaches_oneShots`, `sweep_spec`); behind it the failure counter is
  published, whose key is not (`turn_spec`).  So a life goes on without a panic exactly when its
  first tick never gets that far (`sessionLife_spec`), and a run of lives exactly when each of
  them does (`publishing_never_panics_iff`).
-/
import HassSma.Daemon.Publish
import Mathlib.Logic.Function.Basic

namespace HassSma

open Fallible

/-! ## The program -/

/-- One entry of the `devices` list of a config. -/
structure DeviceCfg where
  slot : String
  appSerial : UInt32
  model : String

/-- What the poll loop reads of an inverter's config. -/
structure InverterCfg where
  devices : List DeviceCfg
  /-- Yield at every n-th poll; 0 for never. -/
  yieldEvery : UInt32
  eventLogEnabled : Bool
  mqtt : MqttClientConfig

/-- A poll target: its identity and its address. -/
structure Target where
  identity : InverterIdentity
  susyId : UInt16
  serial : UInt32

/-- The poll targets of a session: the device of the init reply, or the configured ones. -/
def InverterCfg.targets (cfg : InverterCfg) (identity : InverterIdentity) (initSusy : UInt16)
    (initSerial : UInt32) : List Target :=
  if cfg.devices = [] then [⟨{ identity with serial := initSerial }, initSusy, initSerial⟩]
  else
    cfg.devices.map fun d =>
      ⟨{ identity with slot := d.slot, serial := d.appSerial, model := d.model }, initSusy,
        d.appSerial⟩

/-- There is always somebody to poll. -/
theorem InverterCfg.targets_ne_nil (cfg : InverterCfg) (identity : InverterIdentity)
    (initSusy : UInt16) (initSerial : UInt32) : cfg.targets identity initSusy initSerial ≠ [] := by
  unfold targets
  split
  · exact List.cons_ne_nil _ _
  · rename_i hdevices
    rw [ne_eq, List.map_eq_nil_iff]
    exact hdevices

def perTickQueries : List QueryKind :=
  [.spotAcTotalPower, .spotAcPower, .spotAcVoltage, .spotDcPower, .spotDcVoltage, .energyProduction,
    .operationTime, .inverterTemperature, .spotGridFrequency, .deviceStatus, .gridRelayStatus,
    .spotCosPhi]

def cooldownThreshold : UInt32 := 3
def cooldownLadderSecs : List Nat := [60, 300, 900, 1800]

/-- The failure counters and the cooldowns of a session, by serial. -/
structure PollState where
  consecutiveFailures : UInt32 → Option UInt32
  skipUntil : UInt32 → Option Nat
  pollCount : UInt32

def PollState.new : PollState := ⟨fun _ => none, fun _ => none, 0⟩

/-- How a sweep over one target ends. -/
inductive SweepEnd where
  | completed
  | failed
  | fatal
  deriving DecidableEq, Repr

/-- What has become of the loop after some ticks. -/
inductive LoopEnd where
  | running
  | yielded
  | aborted
  deriving DecidableEq, Repr

/-- The whole seconds since the epoch, as the wire has them. -/
def unixSecs (nanos : Int) : UInt32 := UInt32.ofNat (nanos / 1000000000 % 4294967296).toNat

/-- The record with the latest time, the last of them. -/
def latestEvent (recs : List EventRecord) : Option EventRecord :=
  recs.foldl (fun latest r =>
    match latest with
    | none => some r
    | some best => if best.timestamp ≤ r.timestamp then some r else some best) none

namespace Task

variable {σ : Type} [Link σ]

/-! ### One-shot queries -/

def queryForDevice (t : Target) (kind : QueryKind) : TaskM σ (Except SessionError (List UInt8)) :=
  ask fun link => Link.queryForDevice link t.susyId t.serial kind

/-- The event log of the last 24 hours, of each target. -/
def eventLogTargets (cfg : InverterCfg) (start stop : UInt32) : List Target → TaskM σ Unit
  | [] => pure ()
  | t :: ts => do
    match ← ask fun link => Link.queryEventLogForDevice link t.susyId t.serial start stop with
    | .error _ => eventLogTargets cfg start stop ts
    | .ok body =>
      let recs := parseEventLogRecords body
      match latestEvent recs with
      | none => eventLogTargets cfg start stop ts
      | some latest =>
        publishValue cfg.mqtt t.identity "last_event"
          (.text (latest.text.getD ("TagID " ++ toString latest.tag)))
        publishValue cfg.mqtt t.identity "last_event_at"
          (.time (latest.timestamp.toNat * 1000000000))
        publishValue cfg.mqtt t.identity "last_event_count_24h" (.int recs.length)
        eventLogTargets cfg start stop ts

def eventLogOneShot (cfg : InverterCfg) (targets : List Target) : TaskM σ Unit := do
  if cfg.eventLogEnabled then
    let now ← ask Link.utcNow
    let stop := unixSecs now
    let start := if stop < 86400 then 0 else stop - 86400
    eventLogTargets cfg start stop targets
  else pure ()

/-- The reading of a reply, if there is one. -/
def readingOf {α : Type} (parse : List UInt8 → Option α) (result : Except SessionError (List UInt8)) :
    Option α :=
  match result with
  | .ok body => parse body
  | .error _ => none

/-- Identity and nameplate of one target; its identity with what was found. -/
def identityOneShot (cfg : InverterCfg) (t : Target) : TaskM σ Target := do
  let version := readingOf parseSoftwareVersion (← queryForDevice t .softwareVersion)
  publishReadings cfg.mqtt t.identity [("firmware_version", version.map .text)]
  let identity := { t.identity with firmware := version.getD t.identity.firmware }
  publishValue cfg.mqtt identity "inverter_model" (.text identity.model)
  let model := readingOf (fun body => (parseTypeLabelRaw body).bind typeLabelText)
    (← queryForDevice t .typeLabel)
  publishReadings cfg.mqtt identity [("inverter_model", model.map .text)]
  let identity := { identity with model := model.getD identity.model }
  let nominal := readingOf (parseSingleWattsRecord · 0x00411E00 0x00411E19)
    (← queryForDevice t .nominalAcPower)
  publishReadings cfg.mqtt identity
    [("nominal_ac_power_w", nominal.map fun w => .int w.toNat)]
  let maxFeedIn := readingOf (parseSingleWattsRecord · 0x00411F00 0x00411F19)
    (← queryForDevice t .maxFeedInPower)
  publishReadings cfg.mqtt identity [("max_feedin_w", maxFeedIn.map fun w => .int w.toNat)]
  pure { t with identity := identity }

def identityOneShots (cfg : InverterCfg) : List Target → TaskM σ (List Target)
  | [] => pure []
  | t :: ts => do
    let t' ← identityOneShot cfg t
    let ts' ← identityOneShots cfg ts
    pure (t' :: ts')

/-- Announce the targets and mark them online. -/
def announceTargets (cfg : InverterCfg) : List Target → TaskM σ Unit
  | [] => pure ()
  | t :: ts => do
    send (cfg.mqtt.announce t.identity)
    send [cfg.mqtt.publishOnline t.identity]
    announceTargets cfg ts

/-! ### Ticks -/

/-- The sweep over one target, up to its first error. -/
def sweep (cfg : InverterCfg) (t : Target) : List QueryKind → TaskM σ SweepEnd
  | [] => pure .completed
  | kind :: kinds => do
    match ← queryForDevice t kind with
    | .ok body =>
      publishQueryResult cfg.mqtt t.identity kind body
      sweep cfg t kinds
    | .error e =>
      if e.isSessionFatal then
        publishValue cfg.mqtt t.identity "poll_status" (.text "error")
        pure .fatal
      else
        publishValue cfg.mqtt t.identity "poll_status" (.text "error")
        pure .failed

/-- What follows a sweep without an error. -/
def targetCompleted (cfg : InverterCfg) (sessionStart : Int) (t : Target) (st : PollState) :
    TaskM σ PollState := do
  let now ← ask Link.utcNow
  publishValue cfg.mqtt t.identity "last_poll" (.time now)
  publishValue cfg.mqtt t.identity "poll_status" (.text "ok")
  publishValue cfg.mqtt t.identity "session_uptime" (.int ((now - sessionStart).tdiv 1000000000))
  publishValue cfg.mqtt t.identity "consecutive_failures" (.int 0)
  pure { st with consecutiveFailures := Function.update st.consecutiveFailures t.serial (some 0) }

/-- What follows a sweep with a per-device error. -/
def targetFailed (cfg : InverterCfg) (t : Target) (st : PollState) : TaskM σ PollState := do
  let before := (st.consecutiveFailures t.serial).getD 0
  let cf := if before = 0xFFFFFFFF then before else before + 1
  publishValue cfg.mqtt t.identity "consecutive_failures" (.int cf.toNat)
  let st :=
    { st with consecutiveFailures := Function.update st.consecutiveFailures t.serial (some cf) }
  if cf ≥ cooldownThreshold then
    let secs := cooldownLadderSecs.getD (cf - cooldownThreshold).toNat 1800
    let now ← ask Link.instantNow
    pure { st with
      skipUntil := Function.update st.skipUntil t.serial (some (now + secs * 1000000000)) }
  else pure st

/-- Whether the target is in cooldown; a cooldown that is over is forgotten. -/
def cooldownGate (t : Target) (st : PollState) : TaskM σ (Bool × PollState) := do
  match st.skipUntil t.serial with
  | none => pure (false, st)
  | some skipUntil =>
    let now ← ask Link.instantNow
    if now < skipUntil then pure (true, st)
    else pure (false, { st with skipUntil := Function.update st.skipUntil t.serial none })

/-- One target's turn; `none` if the session is broken. -/
def turn (cfg : InverterCfg) (sessionStart : Int) (t : Target) (st : PollState) :
    TaskM σ (Option PollState) := do
  let (cooling, st) ← cooldownGate t st
  if cooling then pure (some st)
  else
    match ← sweep cfg t perTickQueries with
    | .fatal => pure none
    | .completed =>
      let st ← targetCompleted cfg sessionStart t st
      pure (some st)
    | .failed =>
      let st ← targetFailed cfg t st
      pure (some st)

def turns (cfg : InverterCfg) (sessionStart : Int) :
    List Target → PollState → TaskM σ (Option PollState)
  | [], st => pure (some st)
  | t :: ts, st => do
    match ← turn cfg sessionStart t st with
    | none => pure none
    | some st => turns cfg sessionStart ts st

/-- The loop, over the ticks so far. -/
def pollLoop (cfg : InverterCfg) (targets : List Target) (sessionStart : Int) :
    Nat → PollState → TaskM σ LoopEnd
  | 0, _ => pure .running
  | ticks + 1, st => do
    let st := { st with pollCount := st.pollCount + 1 }
    if 0 < cfg.yieldEvery ∧ st.pollCount % cfg.yieldEvery = 0 then
      ask fun link => ((), Link.gracefulClose link)
      let _ ← ask Link.instantNow
      pure .yielded
    else
      match ← turns cfg sessionStart targets st with
      | none => pure .aborted
      | some st => pollLoop cfg targets sessionStart ticks st

/-! ### Sessions -/

/-- Everything between the handshake and the first tick. -/
def oneShots (cfg : InverterCfg) (targets : List Target) : TaskM σ (List Target) := do
  announceTargets cfg targets
  eventLogOneShot cfg targets
  identityOneShots cfg targets

/-- Behind the loop the session is closed, a second time if it was yielded. -/
def endSession (loopEnd : LoopEnd) : TaskM σ Unit :=
  if loopEnd = .running then pure () else ask fun link => ((), Link.gracefulClose link)

/-- A session from the handshake on, over some ticks, behind which it may still be running. -/
def sessionLife (cfg : InverterCfg) (targets : List Target) (ticks : Nat) : TaskM σ Unit := do
  let targets ← oneShots cfg targets
  let sessionStart ← ask Link.utcNow
  let loopEnd ← pollLoop cfg targets sessionStart ticks .new
  endSession loopEnd

end Task

/-- One session of a run: the link as the handshake left it, the targets, the ticks. -/
structure Life (σ : Type) where
  link : σ
  targets : List Target
  ticks : Nat

/-- The sessions of a run, each on a new link. -/
def runSessions {σ : Type} [Link σ] (cfg : InverterCfg) : List (Life σ) → TaskM σ Unit
  | [] => pure ()
  | life :: lives => do
    modify fun w => { w with link := life.link }
    Task.sessionLife cfg life.targets life.ticks
    runSessions cfg lives

/-! ## Up to the first tick -/

namespace Task

variable {σ : Type}

/-- The step ends without a panic, the link is moved to `link`, and the result is as it should be. -/
def Reaches {α : Type} (x : TaskM σ α) (w : Task σ) (link : σ) (P : α → Prop) : Prop :=
  ∃ a w', x.run w = .ok a w' ∧ w'.link = link ∧ P a

theorem reaches_pure {α : Type} {P : α → Prop} {a : α} (w : Task σ) (h : P a) :
    Reaches (pure a) w w.link P := ⟨a, w, rfl, rfl, h⟩

theorem reaches_ask {α : Type} (f : σ → α × σ) (w : Task σ) :
    Reaches (ask f) w (f w.link).2 (· = (f w.link).1) := ⟨_, _, rfl, rfl, rfl⟩

theorem Publishes.reaches {x : TaskM σ Unit} (h : Publishes x) (w : Task σ) :
    Reaches x w w.link fun _ => True := by
  obtain ⟨ms, hrun⟩ := h w
  exact ⟨(), _, hrun, rfl, trivial⟩

theorem Reaches.bind {α β : Type} {x : TaskM σ α} {f : α → TaskM σ β} {w : Task σ} {link link' : σ}
    {P : α → Prop} {Q : β → Prop} (hx : Reaches x w link P)
    (hf : ∀ a w', w'.link = link → P a → Reaches (f a) w' link' Q) :
    Reaches (x >>= f) w link' Q := by
  obtain ⟨a, w₁, hrun, hlink, ha⟩ := hx
  obtain ⟨b, w₂, hrun', hlink', hb⟩ := hf a w₁ hlink ha
  exact ⟨b, w₂, by rw [bind_of_ok hrun, hrun'], hlink', hb⟩

theorem Publishes.andThen {β : Type} {x : TaskM σ Unit} {y : TaskM σ β} {w : Task σ} {link : σ}
    {Q : β → Prop} (hx : Publishes x) (hy : ∀ w' : Task σ, w'.link = w.link → Reaches y w' link Q) :
    Reaches (do x; y) w link Q :=
  (hx.reaches w).bind fun _ w' hlink _ => hy w' hlink

variable [Link σ]

/-- The link after the event-log queries. -/
def linkAfterEventLog (cfg : InverterCfg) (targets : List Target) (link : σ) : σ :=
  if cfg.eventLogEnabled then
    let now := Link.utcNow link
    let stop := unixSecs now.1
    let start := if stop < 86400 then 0 else stop - 86400
    targets.foldl
      (fun link t => (Link.queryEventLogForDevice link t.susyId t.serial start stop).2) now.2
  else link

/-- The link after the identity and nameplate queries. -/
def linkAfterIdentity (targets : List Target) (link : σ) : σ :=
  targets.foldl (fun link t =>
    [QueryKind.softwareVersion, .typeLabel, .nominalAcPower, .maxFeedInPower].foldl
      (fun link kind => (Link.queryForDevice link t.susyId t.serial kind).2) link) link

/-- The link as the first tick finds it. -/
def linkAtFirstTick (cfg : InverterCfg) (targets : List Target) (link : σ) : σ :=
  (Link.utcNow (linkAfterIdentity targets (linkAfterEventLog cfg targets link))).2

omit [Link σ] in
theorem publishes_announce (cfg : InverterCfg) (targets : List Target) :
    Publishes (announceTargets cfg targets : TaskM σ Unit) := by
  induction targets with
  | nil => exact publishes_pure
  | cons t ts ih => exact (publishes_send _).seq ((publishes_send _).seq ih)

theorem reaches_eventLogTargets (cfg : InverterCfg) (start stop : UInt32) (targets : List Target)
    (w : Task σ) :
    Reaches (eventLogTargets cfg start stop targets) w
      (targets.foldl
        (fun link t => (Link.queryEventLogForDevice link t.susyId t.serial start stop).2) w.link)
      fun _ => True := by
  induction targets generalizing w with
  | nil => exact reaches_pure w trivial
  | cons t ts ih =>
    refine (reaches_ask _ w).bind fun result w' hlink _ => ?_
    rw [List.foldl_cons, ← hlink]
    cases result with
    | error e => exact ih w'
    | ok body =>
      simp only
      cases latestEvent (parseEventLogRecords body) with
      | none => exact ih w'
      | some latest =>
        refine (publishes_value cfg.mqtt t.identity (by decide) _).andThen fun w₁ h₁ => ?_
        refine (publishes_value cfg.mqtt t.identity (by decide) _).andThen fun w₂ h₂ => ?_
        refine (publishes_value cfg.mqtt t.identity (by decide) _).andThen fun w₃ h₃ => ?_
        rw [← h₁, ← h₂, ← h₃]
        exact ih w₃

theorem reaches_eventLogOneShot (cfg : InverterCfg) (targets : List Target) (w : Task σ) :
    Reaches (eventLogOneShot cfg targets) w (linkAfterEventLog cfg targets w.link) fun _ => True := by
  unfold eventLogOneShot linkAfterEventLog
  split
  · refine (reaches_ask _ w).bind fun now w' hlink hnow => ?_
    subst hnow
    show Reaches _ w' (targets.foldl _ (Link.utcNow w.link).2) _
    rw [← hlink]
    exact reaches_eventLogTargets cfg _ _ targets w'
  · exact reaches_pure w trivial

/-- Two targets have the same address. -/
def SameAddress (t t' : Target) : Prop := t'.susyId = t.susyId ∧ t'.serial = t.serial

theorem reaches_identityOneShot (cfg : InverterCfg) (t : Target) (w : Task σ) :
    Reaches (identityOneShot cfg t) w (linkAfterIdentity [t] w.link) (SameAddress t) := by
  have hpublish : ∀ (identity : InverterIdentity) {sensorKey : String} (value : Option Reading),
      sensorKey ∈ sensorKeys →
        Publishes (publishReadings cfg.mqtt identity [(sensorKey, value)] : TaskM σ Unit) := by
    intro identity sensorKey value hkey
    exact publishes_readings cfg.mqtt identity (List.forall_mem_singleton.mpr hkey)
  refine (reaches_ask _ w).bind fun version w₁ h₁ _ => ?_
  refine (hpublish _ _ (by decide)).andThen fun w₂ h₂ => ?_
  refine (publishes_value cfg.mqtt _ (by decide) _).andThen fun w₃ h₃ => ?_
  refine (reaches_ask _ w₃).bind fun model w₄ h₄ _ => ?_
  refine (hpublish _ _ (by decide)).andThen fun w₅ h₅ => ?_
  refine (reaches_ask _ w₅).bind fun nominal w₆ h₆ _ => ?_
  refine (hpublish _ _ (by decide)).andThen fun w₇ h₇ => ?_
  refine (reaches_ask _ w₇).bind fun maxFeedIn w₈ h₈ _ => ?_
  refine (hpublish _ _ (by decide)).andThen fun w₉ h₉ => ?_
  have hlink : w₉.link = linkAfterIdentity [t] w.link := by
    rw [h₉, h₈, h₇, h₆, h₅, h₄, h₃, h₂, h₁]
    rfl
  rw [← hlink]
  exact reaches_pure w₉ ⟨rfl, rfl⟩

theorem reaches_identityOneShots (cfg : InverterCfg) (targets : List Target) (w : Task σ) :
    Reaches (identityOneShots cfg targets) w (linkAfterIdentity targets w.link)
      (List.Forall₂ SameAddress targets) := by
  induction targets generalizing w with
  | nil => exact reaches_pure w .nil
  | cons t ts ih =>
    refine (reaches_identityOneShot cfg t w).bind fun t' w₁ h₁ ht => ?_
    have hlink : linkAfterIdentity (t :: ts) w.link = linkAfterIdentity ts w₁.link := by
      rw [h₁]
      rfl
    rw [hlink]
    exact (ih w₁).bind fun ts' w₂ h₂ hts => h₂ ▸ reaches_pure w₂ (.cons ht hts)

/-- **Before the first tick** nothing panics, and no target changes its address. -/
theorem reaches_oneShots (cfg : InverterCfg) (targets : List Target) (w : Task σ) :
    Reaches (oneShots cfg targets) w
      (linkAfterIdentity targets (linkAfterEventLog cfg targets w.link))
      (List.Forall₂ SameAddress targets) := by
  refine (publishes_announce cfg targets).andThen fun w₁ h₁ => ?_
  refine (reaches_eventLogOneShot cfg targets w₁).bind fun _ w₂ h₂ _ => ?_
  rw [← h₁, ← h₂]
  exact reaches_identityOneShots cfg targets w₂

/-! ## The first tick -/

/-- The first error in a sweep, if there is one, is fatal to the session. -/
def fatalFirst (susyId : UInt16) (serial : UInt32) : List QueryKind → σ → Bool
  | [], _ => false
  | kind :: kinds, link =>
    match Link.queryForDevice link susyId serial kind with
    | (.ok _, link') => fatalFirst susyId serial kinds link'
    | (.error e, _) => e.isSessionFatal

/-- A sweep never panics, and it ends fatally exactly if its first error is fatal. -/
theorem sweep_spec (cfg : InverterCfg) (t : Target) (kinds : List QueryKind) (w : Task σ) :
    ∃ r w', (sweep cfg t kinds).run w = .ok r w' ∧
      (r = .fatal ↔ fatalFirst t.susyId t.serial kinds w.link = true) := by
  induction kinds generalizing w with
  | nil => exact ⟨.completed, w, rfl, by simp [fatalFirst]⟩
  | cons kind kinds ih =>
    obtain ⟨result, link', hquery⟩ : ∃ result link',
        Link.queryForDevice w.link t.susyId t.serial kind = (result, link') := ⟨_, _, rfl⟩
    have hask : (queryForDevice t kind).run w = .ok result { w with link := link' } := by
      show EStateM.Result.ok (Link.queryForDevice w.link t.susyId t.serial kind).1
        { w with link := (Link.queryForDevice w.link t.susyId t.serial kind).2 } = _
      rw [hquery]
    rw [sweep, bind_of_ok hask, fatalFirst, hquery]
    cases result with
    | ok body =>
      obtain ⟨ms, hpublish⟩ :=
        publishes_queryResult cfg.mqtt t.identity kind body { w with link := link' }
      simp only
      rw [bind_of_ok hpublish]
      exact ih _
    | error e =>
      have hstatus := @publishes_value σ cfg.mqtt t.identity "poll_status" (by decide) (.text "error")
      obtain ⟨ms, hpublish⟩ := hstatus { w with link := link' }
      simp only
      split
      · rename_i hfatal
        rw [bind_of_ok hpublish]
        exact ⟨.fatal, _, rfl, by simp [hfatal]⟩
      · rename_i hfatal
        rw [bind_of_ok hpublish]
        exact ⟨.failed, _, rfl, by simp [hfatal]⟩

/-- The step looks up a key that is not in the catalog. -/
def Panics {α : Type} (x : TaskM σ α) (w : Task σ) : Prop :=
  ∃ w', x.run w = .error (.expect "unknown sensor key") w'

omit [Link σ] in
theorem Panics.bind {α β : Type} {x : TaskM σ α} {w : Task σ} (hx : Panics x w)
    (f : α → TaskM σ β) : Panics (x >>= f) w := by
  obtain ⟨w', hrun⟩ := hx
  exact ⟨w', bind_of_error hrun f⟩

omit [Link σ] in
theorem Reaches.panics {α β : Type} {x : TaskM σ α} {f : α → TaskM σ β} {w : Task σ} {link : σ}
    {P : α → Prop} (hx : Reaches x w link P)
    (hf : ∀ a w', w'.link = link → P a → Panics (f a) w') : Panics (x >>= f) w := by
  obtain ⟨a, w₁, hrun, hlink, ha⟩ := hx
  obtain ⟨w₂, hrun'⟩ := hf a w₁ hlink ha
  exact ⟨w₂, by rw [bind_of_ok hrun, hrun']⟩

omit [Link σ] in
/-- The failure counter has no sensor. -/
theorem panics_consecutiveFailures (cfg : MqttClientConfig) (identity : InverterIdentity)
    (value : Reading) (w : Task σ) :
    Panics (publishValue cfg identity "consecutive_failures" value) w :=
  ⟨w, run_publishValue_unknown cfg identity (by decide) value w⟩

theorem panics_targetCompleted (cfg : InverterCfg) (sessionStart : Int) (t : Target) (st : PollState)
    (w : Task σ) : Panics (targetCompleted cfg sessionStart t st) w := by
  refine (reaches_ask _ w).panics fun now w₁ _ _ => ?_
  refine ((publishes_value cfg.mqtt t.identity (by decide) _).reaches w₁).panics fun _ w₂ _ _ => ?_
  refine ((publishes_value cfg.mqtt t.identity (by decide) _).reaches w₂).panics fun _ w₃ _ _ => ?_
  refine ((publishes_value cfg.mqtt t.identity (by decide) _).reaches w₃).panics fun _ w₄ _ _ => ?_
  exact (panics_consecutiveFailures cfg.mqtt t.identity _ w₄).bind _

theorem panics_targetFailed (cfg : InverterCfg) (t : Target) (st : PollState) (w : Task σ) :
    Panics (targetFailed cfg t st) w :=
  (panics_consecutiveFailures cfg.mqtt t.identity _ w).bind _

/-- **A turn outside cooldown** panics unless its sweep is cut short by a fatal error: whether the sweep
    was completed or failed, the failure counter is published. -/
theorem turn_spec (cfg : InverterCfg) (sessionStart : Int) (t : Target) {st : PollState}
    (hst : st.skipUntil t.serial = none) (w : Task σ) :
    (fatalFirst t.susyId t.serial perTickQueries w.link = true →
        ∃ w', (turn cfg sessionStart t st).run w = .ok none w') ∧
      (fatalFirst t.susyId t.serial perTickQueries w.link = false →
        Panics (turn cfg sessionStart t st) w) := by
  obtain ⟨r, w₁, hsweep, hfatal⟩ := sweep_spec cfg t perTickQueries w
  have hgate : (cooldownGate t st).run w = .ok (false, st) w := by
    rw [cooldownGate, hst]
    rfl
  unfold Panics
  rw [turn, bind_of_ok hgate]
  simp only [Bool.false_eq_true, if_false]
  rw [bind_of_ok hsweep]
  cases r with
  | fatal => exact ⟨fun _ => ⟨w₁, rfl⟩, fun h => nomatch h.symm.trans (hfatal.mp rfl)⟩
  | completed =>
    exact ⟨fun h => (nomatch hfatal.mpr h),
      fun _ => (panics_targetCompleted cfg sessionStart t st w₁).bind _⟩
  | failed =>
    exact ⟨fun h => (nomatch hfatal.mpr h), fun _ => (panics_targetFailed cfg t st w₁).bind _⟩

/-- The first target decides, if it is not in cooldown. -/
theorem turns_spec (cfg : InverterCfg) (sessionStart : Int) (t : Target) (ts : List Target)
    {st : PollState} (hst : st.skipUntil t.serial = none) (w : Task σ) :
    (fatalFirst t.susyId t.serial perTickQueries w.link = true →
        ∃ w', (turns cfg sessionStart (t :: ts) st).run w = .ok none w') ∧
      (fatalFirst t.susyId t.serial perTickQueries w.link = false →
        Panics (turns cfg sessionStart (t :: ts) st) w) := by
  obtain ⟨hfatal, hpanic⟩ := turn_spec cfg sessionStart t hst w
  constructor
  · intro hcut
    obtain ⟨w', hturn⟩ := hfatal hcut
    exact ⟨w', by rw [turns, bind_of_ok hturn]; rfl⟩
  · intro hgood
    exact (hpanic hgood).bind _

/-! ## Sessions -/

/-- Ticks without a target do nothing, until the session is yielded. -/
theorem pollLoop_no_targets (cfg : InverterCfg) (sessionStart : Int) (ticks : Nat) (st : PollState)
    (w : Task σ) : ∃ r w', (pollLoop cfg [] sessionStart ticks st).run w = .ok r w' := by
  induction ticks generalizing st w with
  | zero => exact ⟨.running, w, rfl⟩
  | succ ticks ih =>
    rw [pollLoop]
    simp only
    split
    · exact ⟨.yielded, _, rfl⟩
    · exact ih _ w

/-- The first tick yields exactly if every tick does. -/
theorem first_tick_yields_iff (yieldEvery : UInt32) :
    (0 < yieldEvery ∧ (0 + 1) % yieldEvery = 0) ↔ yieldEvery = 1 := by
  rw [UInt32.lt_iff_toNat_lt, ← UInt32.toNat_inj, ← UInt32.toNat_inj, UInt32.toNat_mod]
  show (0 < yieldEvery.toNat ∧ 1 % yieldEvery.toNat = 0) ↔ yieldEvery.toNat = 1
  rw [Nat.one_mod_eq_zero_iff]
  omega

/-- The first tick of a session never gets to the failure counter: there is none, or nobody to poll, or
    it yields at once, or the first sweep is cut short by a fatal error. -/
def Spared (cfg : InverterCfg) (life : Life σ) : Prop :=
  life.ticks = 0 ∨ life.targets = [] ∨ cfg.yieldEvery = 1 ∨
    ∃ t ts, life.targets = t :: ts ∧
      fatalFirst t.susyId t.serial perTickQueries (linkAtFirstTick cfg life.targets life.link) = true

/-- The loop of a new session over `ticks` ticks: it panics in the first one, or never. -/
theorem pollLoop_spec (cfg : InverterCfg) (t : Target) (ts : List Target) (sessionStart : Int)
    (ticks : Nat) (w : Task σ) :
    (ticks = 0 ∨ cfg.yieldEvery = 1 ∨ fatalFirst t.susyId t.serial perTickQueries w.link = true →
        ∃ r w', (pollLoop cfg (t :: ts) sessionStart ticks .new).run w = .ok r w') ∧
      (ticks ≠ 0 → cfg.yieldEvery ≠ 1 →
        fatalFirst t.susyId t.serial perTickQueries w.link = false →
        Panics (pollLoop cfg (t :: ts) sessionStart ticks .new) w) := by
  cases ticks with
  | zero => exact ⟨fun _ => ⟨.running, w, rfl⟩, fun h => absurd rfl h⟩
  | succ ticks =>
    let st : PollState := { PollState.new with pollCount := 0 + 1 }
    obtain ⟨hfatal, hpanic⟩ := turns_spec cfg sessionStart t ts
      (show st.skipUntil t.serial = none from rfl) w
    unfold Panics
    rw [pollLoop]
    simp only [show PollState.new.pollCount = 0 from rfl, first_tick_yields_iff]
    by_cases hyield : cfg.yieldEvery = 1
    · rw [if_pos hyield]
      exact ⟨fun _ => ⟨.yielded, _, rfl⟩, fun _ h => absurd hyield h⟩
    · rw [if_neg hyield]
      constructor
      · rintro (hnone | hone | hcut)
        · nomatch hnone
        · exact absurd hone hyield
        · obtain ⟨w', hturns⟩ := hfatal hcut
          exact ⟨.aborted, w', bind_of_ok hturns _⟩
      · intro _ _ hgood
        exact (hpanic hgood).bind _

theorem run_endSession (loopEnd : LoopEnd) (w : Task σ) :
    ∃ w', (endSession loopEnd).run w = .ok () w' := by
  unfold endSession
  split
  · exact ⟨w, rfl⟩
  · exact ⟨_, rfl⟩

/-- **When a session life panics**: unless it is spared. -/
theorem sessionLife_spec (cfg : InverterCfg) (life : Life σ) {w : Task σ} (hw : w.link = life.link) :
    (Spared cfg life → ∃ w', (sessionLife cfg life.targets life.ticks).run w = .ok () w') ∧
      (¬ Spared cfg life → Panics (sessionLife cfg life.targets life.ticks) w) := by
  obtain ⟨targets, w₁, hshots, hlink, haddr⟩ := reaches_oneShots cfg life.targets w
  let w₂ : Task σ := { w₁ with link := linkAtFirstTick cfg life.targets life.link }
  have hstart : (ask Link.utcNow).run w₁ = .ok (Link.utcNow w₁.link).1 w₂ := by
    show EStateM.Result.ok _ { w₁ with link := (Link.utcNow w₁.link).2 } = _
    rw [hlink, hw]
    rfl
  have hdone : ∀ {r w₃}, (pollLoop cfg targets (Link.utcNow w₁.link).1 life.ticks .new).run w₂ = .ok r w₃ →
      ∃ w', (sessionLife cfg life.targets life.ticks).run w = .ok () w' := by
    intro r w₃ hloop
    rw [sessionLife, bind_of_ok hshots, bind_of_ok hstart, bind_of_ok hloop]
    exact run_endSession r w₃
  have hdead : Panics (pollLoop cfg targets (Link.utcNow w₁.link).1 life.ticks .new) w₂ →
      Panics (sessionLife cfg life.targets life.ticks) w := by
    intro hloop
    unfold Panics
    rw [sessionLife, bind_of_ok hshots, bind_of_ok hstart]
    exact hloop.bind _
  obtain ⟨ts, hts⟩ : ∃ ts, life.targets = ts := ⟨_, rfl⟩
  rw [hts] at haddr
  cases haddr with
  | nil =>
    obtain ⟨r, w₃, hloop⟩ := pollLoop_no_targets cfg (Link.utcNow w₁.link).1 life.ticks .new w₂
    exact ⟨fun _ => hdone hloop, fun h => absurd (.inr (.inl hts)) h⟩
  | @cons t t' ts ts' ht _ =>
    obtain ⟨hok, hpanic⟩ := pollLoop_spec cfg t' ts' (Link.utcNow w₁.link).1 life.ticks w₂
    rw [ht.1, ht.2] at hok hpanic
    constructor
    · rintro (hnone | hempty | hyield | ⟨t₀, ts₀, hcons, hfatal⟩)
      · obtain ⟨r, w₃, hloop⟩ := hok (.inl hnone)
        exact hdone hloop
      · nomatch hts.symm.trans hempty
      · obtain ⟨r, w₃, hloop⟩ := hok (.inr (.inl hyield))
        exact hdone hloop
      · obtain ⟨rfl, -⟩ := List.cons.inj (hts.symm.trans hcons)
        obtain ⟨r, w₃, hloop⟩ := hok (.inr (.inr hfatal))
        exact hdone hloop
    · intro hnot
      refine hdead (hpanic (fun h => hnot (.inl h)) (fun h => hnot (.inr (.inr (.inl h)))) ?_)
      rw [Bool.eq_false_iff]
      exact fun hfatal => hnot (.inr (.inr (.inr ⟨t, ts, hts, hfatal⟩)))

/-- **When publishing never panics.**  Over any run of sessions, whatever the targets, the ticks and the
    outcomes of the queries: exactly when every session is spared, that is, its first tick never gets
    to the failure counter.  Every other key is in the catalog. -/
theorem publishing_never_panics_iff (cfg : InverterCfg) (lives : List (Life σ)) (w : Task σ) :
    (∃ w', (runSessions cfg lives).run w = .ok () w') ↔ ∀ life ∈ lives, Spared cfg life := by
  induction lives generalizing w with
  | nil => exact iff_of_true ⟨w, rfl⟩ (by simp)
  | cons life lives ih =>
    have hstart : (modify fun w => { w with link := life.link } : TaskM σ PUnit).run w
        = .ok () { w with link := life.link } := rfl
    obtain ⟨hok, hpanic⟩ := sessionLife_spec cfg life (w := { w with link := life.link }) rfl
    rw [runSessions, bind_of_ok hstart, List.forall_mem_cons]
    by_cases hspared : Spared cfg life
    · obtain ⟨w₁, hlife⟩ := hok hspared
      rw [bind_of_ok hlife, ih w₁, and_iff_right hspared]
    · obtain ⟨w₁, hlife⟩ := hpanic hspared
      rw [bind_of_error hlife]
      exact iff_of_false (fun ⟨w', h⟩ => nomatch h) fun h => hspared h.1

/-! ## A device that never answers -/

/-- A link on which every query is met with silence. -/
structure SilentLink where
  seconds : Nat

instance : Link SilentLink where
  queryForDevice l _ _ _ := (.error (.silent "query"), ⟨l.seconds + 15⟩)
  queryEventLogForDevice l _ _ _ _ := (.error (.silent "event-log"), ⟨l.seconds + 15⟩)
  gracefulClose l := l
  instantNow l := (l.seconds * 1000000000, l)
  utcNow l := ((l.seconds * 1000000000 : Nat), l)

def sampleTarget : Target := ⟨⟨"zolder", 2120121246, "SB 3000HF-30", ""⟩, 110, 2120121246⟩

def sampleCfg : InverterCfg := ⟨[], 0, false, ⟨"homeassistant", "hass-sma"⟩⟩

/-- One silent device, one tick: the task panics on the failure counter. -/
theorem publishing_panics_on_silence :
    ¬ ∃ w', (runSessions sampleCfg [⟨SilentLink.mk 0, [sampleTarget], 1⟩]).run ⟨⟨0⟩, []⟩ = .ok () w' := by
  have hspared : ¬ Spared sampleCfg ⟨SilentLink.mk 0, [sampleTarget], 1⟩ := by
    rintro (hticks | htargets | hyield | ⟨t, ts, hcons, hfatal⟩)
    · nomatch hticks
    · nomatch htargets
    · exact absurd hyield (by decide)
    · obtain ⟨rfl, -⟩ := List.cons.inj hcons
      nomatch hfatal
  have hstart : (modify fun w => { w with link := ⟨0⟩ } : TaskM SilentLink PUnit).run ⟨⟨0⟩, []⟩
      = .ok () ⟨⟨0⟩, []⟩ := rfl
  obtain ⟨w₁, hlife⟩ := (sessionLife_spec sampleCfg ⟨SilentLink.mk 0, [sampleTarget], 1⟩
    (w := ⟨⟨0⟩, []⟩) rfl).2 hspared
  rintro ⟨w', hrun⟩
  rw [runSessions, bind_of_ok hstart, bind_of_error hlife] at hrun
  nomatch hrun

end Task

end HassSma
