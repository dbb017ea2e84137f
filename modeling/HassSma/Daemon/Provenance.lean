/-
  Where a published value comes from (`run_inverter` in `daemon/src/main.rs`).

  1. **Origins** — `Origin log t key r`: what has passed between the task and its link (`log`) accounts
     for the reading `r` of the device `t` under `key`.  A measurement is in a reply to a query that
     was addressed to `t`; the nameplate and the last event likewise; `ok` says that all queries of
     a tick were answered, `error` that one was not; times are readings of the clock.

  2. **Shapes** — a sensor of the catalog shows a number, a text or a time (`SensorConfig.shape`), and
     what is published under a key has the shape of its sensor.

  3. **The invariant (`Told`)** — all that has been published is a value of a device of the task, in
     the shape of its sensor, and has an origin in the log.  Each step of a session keeps it, also
     one that panics, and what a step finds out is known to the next ones (`known`).

  So no value is ever shown for a device that did not send it, whatever the link answers, and
  however the replies of several devices follow one another (`session_values`).
-/
import HassSma.Daemon.InStep
import HassSma.Lib.Triple

namespace HassSma

open Fallible

/-! ## Shapes -/

/-- What a sensor shows. -/
inductive Shape where
  | number
  | text
  | time
  deriving DecidableEq, Repr

/-- A timestamp is a time, and what has a state class is a number. -/
def SensorConfig.shape (s : SensorConfig) : Shape :=
  if s.deviceClass = some "timestamp" then .time
  else if s.stateClass.isSome then .number
  else .text

def Reading.shape : Reading → Shape
  | .int _ => .number
  | .scaled _ _ => .number
  | .text _ => .text
  | .time _ => .time

/-- Under this key the reading has the shape of its sensor. -/
def Fits (key : String) (r : Reading) : Prop := ∀ s ∈ sensorCatalog, s.key = key → s.shape = r.shape

/-- The reading fits, if there is one. -/
def FitsIf (key : String) (o : Option Reading) : Prop := ∀ r, o = some r → Fits key r

/-- The sensors that show a text, and those that show a time. -/
def textKeys : List String :=
  ["inverter_state", "poll_status", "grid_relay", "inverter_model", "firmware_version", "last_event"]

def timeKeys : List String := ["last_poll", "last_event_at"]

/-- What the sensor of a key shows; the others show numbers. -/
def keyShape (key : String) : Shape :=
  if key ∈ textKeys then .text else if key ∈ timeKeys then .time else .number

theorem shape_eq_keyShape : ∀ s ∈ sensorCatalog, s.shape = keyShape s.key := by decide +kernel

theorem fits_of_shape {key : String} {r : Reading} (shape : Shape) (hkey : keyShape key = shape)
    (hr : r.shape = shape) : Fits key r := by
  intro s hs hskey
  rw [shape_eq_keyShape s hs, hskey, hkey, hr]

/-- A reading made from whatever there is. -/
theorem fits_map {α : Type} {key : String} {f : α → Reading} (shape : Shape)
    (hkey : keyShape key = shape) (hf : ∀ a, (f a).shape = shape) (o : Option α) :
    FitsIf key (o.map f) := by
  intro r hr
  obtain ⟨a, -, rfl⟩ := Option.map_eq_some_iff.mp hr
  exact fits_of_shape shape hkey (hf a)

/-- **What a reply is published as** has the shape of its sensors. -/
theorem readingsOf_fit (kind : QueryKind) (body : List UInt8) :
    ∀ p ∈ readingsOf kind body, FitsIf p.1 p.2 := by
  cases kind <;> simp only [readingsOf, List.forall_mem_cons, List.not_mem_nil, false_implies,
    implies_true, and_true]
  case deviceStatus => exact fits_map .text (by decide) (fun _ => rfl) _
  case gridRelayStatus => exact fits_map .text (by decide) (fun _ => rfl) _
  all_goals (repeat' apply And.intro)
  all_goals exact fits_map .number (by decide) (fun _ => rfl) _

/-! ## Origins -/

/-- The keys of the nameplate, each with its reading if the reply has one. -/
def nameplateOf (kind : QueryKind) (body : List UInt8) : List (String × Option Reading) :=
  match kind with
  | .softwareVersion => [("firmware_version", (parseSoftwareVersion body).map .text)]
  | .typeLabel => [("inverter_model", ((parseTypeLabelRaw body).bind typeLabelText).map .text)]
  | .nominalAcPower =>
    [("nominal_ac_power_w",
      (parseSingleWattsRecord body 0x00411E00 0x00411E19).map fun w => .int w.toNat)]
  | .maxFeedInPower =>
    [("max_feedin_w", (parseSingleWattsRecord body 0x00411F00 0x00411F19).map fun w => .int w.toNat)]
  | _ => []

/-- The keys of the last event of a log. -/
def eventReadingsOf (body : List UInt8) : List (String × Option Reading) :=
  let recs := parseEventLogRecords body
  let latest := latestEvent recs
  [("last_event", latest.map fun e => .text (e.text.getD ("TagID " ++ toString e.tag))),
    ("last_event_at", latest.map fun e => .time (e.timestamp.toNat * 1000000000)),
    ("last_event_count_24h", latest.map fun _ => .int recs.length)]

theorem nameplateOf_fit (kind : QueryKind) (body : List UInt8) :
    ∀ p ∈ nameplateOf kind body, FitsIf p.1 p.2 := by
  cases kind <;> simp only [nameplateOf, List.forall_mem_cons, List.not_mem_nil, false_implies,
    implies_true, and_true]
  case softwareVersion => exact fits_map .text (by decide) (fun _ => rfl) _
  case typeLabel => exact fits_map .text (by decide) (fun _ => rfl) _
  all_goals exact fits_map .number (by decide) (fun _ => rfl) _

theorem eventReadingsOf_fit (body : List UInt8) : ∀ p ∈ eventReadingsOf body, FitsIf p.1 p.2 := by
  simp only [eventReadingsOf, List.forall_mem_cons, List.not_mem_nil, false_implies, implies_true,
    and_true]
  refine ⟨?_, ?_, ?_⟩
  · exact fits_map .text (by decide) (fun _ => rfl) _
  · exact fits_map .time (by decide) (fun _ => rfl) _
  · exact fits_map .number (by decide) (fun _ => rfl) _

/-- The log accounts for a reading of `t` under a key. -/
inductive Origin (log : List LinkEvent) (t : Target) : String → Reading → Prop where
  /-- A reply to a query addressed to the device has it. -/
  | reply {kind : QueryKind} {body : List UInt8} {key : String} {r : Reading}
      (hlog : .query t.susyId t.serial kind (.ok body) ∈ log)
      (hr : (key, some r) ∈ readingsOf kind body ++ nameplateOf kind body) : Origin log t key r
  /-- The device's event log has it. -/
  | event {start stop : UInt32} {body : List UInt8} {key : String} {r : Reading}
      (hlog : .eventLog t.susyId t.serial start stop (.ok body) ∈ log)
      (hr : (key, some r) ∈ eventReadingsOf body) : Origin log t key r
  /-- The model as it is configured. -/
  | model : Origin log t "inverter_model" (.text t.identity.model)
  /-- All queries of a tick were answered. -/
  | ok (hlog : ∀ kind ∈ perTickQueries,
      ∃ body, .query t.susyId t.serial kind (.ok body) ∈ log) : Origin log t "poll_status" (.text "ok")
  /-- A query was not. -/
  | error {kind : QueryKind} {e : SessionError}
      (hlog : .query t.susyId t.serial kind (.error e) ∈ log) : Origin log t "poll_status" (.text "error")
  | polled {now : Int} (hlog : .utc now ∈ log) : Origin log t "last_poll" (.time now)
  | uptime {now start : Int} (hnow : .utc now ∈ log) (hstart : .utc start ∈ log) :
      Origin log t "session_uptime" (.int ((now - start).tdiv 1000000000))

/-- What has an origin keeps it. -/
theorem Origin.mono {log log' : List LinkEvent} {t : Target} {key : String} {r : Reading}
    (h : Origin log t key r) (hsub : ∀ ev ∈ log, ev ∈ log') : Origin log' t key r := by
  cases h with
  | reply hlog hr => exact .reply (hsub _ hlog) hr
  | event hlog hr => exact .event (hsub _ hlog) hr
  | model => exact .model
  | ok hlog =>
    refine .ok fun kind hkind => ?_
    obtain ⟨body, hbody⟩ := hlog kind hkind
    exact ⟨body, hsub _ hbody⟩
  | error hlog => exact .error (hsub _ hlog)
  | polled hlog => exact .polled (hsub _ hlog)
  | uptime hnow hstart => exact .uptime (hsub _ hnow) (hsub _ hstart)

/-- A value of a device of the task, in the shape of its sensor and with an origin. -/
def ValueOf (cfg : MqttClientConfig) (targets : List Target) (log : List LinkEvent) (m : Message) :
    Prop :=
  ∃ t ∈ targets, ∃ sensor ∈ sensorCatalog, ∃ r,
    m = ⟨cfg.stateTopic t.identity sensor, false, .value r⟩ ∧ sensor.shape = r.shape ∧
      Origin log t sensor.key r

/-- The same device: its address and its slot. -/
def SameDevice (t t' : Target) : Prop :=
  t'.susyId = t.susyId ∧ t'.serial = t.serial ∧ t'.identity.slot = t.identity.slot

/-! ## The invariant -/

namespace Task

variable {σ : Type}

/-- Behind `base` nothing but values with an origin in the log, and `known` is in the log. -/
def Told (cfg : MqttClientConfig) (targets : List Target) (base : List Message)
    (known : List LinkEvent) (w : Task (Watched σ)) : Prop :=
  (∀ ev ∈ known, ev ∈ w.link.log) ∧
    ∃ ms, w.outbox = base ++ ms ∧ ∀ m ∈ ms, ValueOf cfg targets w.link.log m

variable {cfg : MqttClientConfig} {targets : List Target} {base : List Message}
  {known : List LinkEvent}

theorem Told.known_of {known' : List LinkEvent} {w : Task (Watched σ)}
    (h : Told cfg targets base known w) (hsub : ∀ ev ∈ known', ev ∈ known) :
    Told cfg targets base known' w :=
  ⟨fun ev hev => h.1 ev (hsub ev hev), h.2⟩

theorem Told.forget {w : Task (Watched σ)} (h : Told cfg targets base known w) :
    Told cfg targets base [] w := h.known_of (List.forall_mem_nil _)

/-- The triples of this invariant: what a step finds out is known behind it. -/
abbrev KeepsTold (cfg : MqttClientConfig) (targets : List Target) (base : List Message)
    (known : List LinkEvent) {α : Type} (x : TaskM (Watched σ) α) (found : α → List LinkEvent) : Prop :=
  Triple (Told cfg targets base known) x (fun a => Told cfg targets base (found a ++ known))
    (Told cfg targets base [])

theorem told_pure {α : Type} (a : α) {found : α → List LinkEvent}
    (h : ∀ ev ∈ found a, ev ∈ known) :
    KeepsTold cfg targets base known (pure a : TaskM (Watched σ) α) found := by
  refine triple_pure fun w hw => hw.known_of fun ev hev => ?_
  rcases List.mem_append.mp hev with hev | hev
  · exact h ev hev
  · exact hev

theorem told_done {α : Type} (a : α) :
    KeepsTold cfg targets base known (pure a : TaskM (Watched σ) α) fun _ => [] :=
  told_pure a (List.forall_mem_nil _)

/-- In a sequence, what the first part found is known to the second one. -/
theorem KeepsTold.bind {α β : Type} {x : TaskM (Watched σ) α} {f : α → TaskM (Watched σ) β}
    {found : α → List LinkEvent} {found' : β → List LinkEvent}
    (hx : KeepsTold cfg targets base known x found)
    (hf : ∀ a, KeepsTold cfg targets base (found a ++ known) (f a) found') :
    KeepsTold cfg targets base known (x >>= f) found' := by
  refine Triple.bind hx fun a => (hf a).weaken (fun _ h => h) fun b w hw => hw.known_of fun ev hev => ?_
  rcases List.mem_append.mp hev with hev | hev
  · exact List.mem_append_left _ hev
  · exact List.mem_append_right _ (List.mem_append_right _ hev)

/-- A question is found out. -/
theorem told_ask {α : Type} {f : Watched σ → α × Watched σ} (event : α → LinkEvent)
    (hf : ∀ w, (f w).2.log = w.log ++ [event (f w).1]) :
    KeepsTold cfg targets base known (ask f) fun a => [event a] := by
  rintro w ⟨hknown, ms, hbox, hms⟩
  have hsub : ∀ ev ∈ w.link.log, ev ∈ (f w.link).2.log := by
    intro ev hev
    rw [hf]
    exact List.mem_append_left _ hev
  show Told cfg targets base ([event (f w.link).1] ++ known) { w with link := (f w.link).2 }
  refine ⟨?_, ms, hbox, ?_⟩
  · intro ev hev
    rcases List.mem_append.mp hev with hev | hev
    · rw [hf]
      exact List.mem_append_right _ hev
    · exact hsub ev (hknown ev hev)
  · intro m hm
    obtain ⟨t, ht, sensor, hsensor, r, hm, hshape, horigin⟩ := hms m hm
    exact ⟨t, ht, sensor, hsensor, r, hm, hshape, horigin.mono hsub⟩

/-- What may be published for a device under a key. -/
def Sayable (known : List LinkEvent) (t : Target) (key : String) (r : Reading) : Prop :=
  Fits key r ∧ (key ∈ sensorKeys → Origin known t key r)

/-- A value that may be published is, if its key is in the catalog. -/
theorem told_publishValue {t : Target} (ht : t ∈ targets) {identity : InverterIdentity}
    (hslot : identity.slot = t.identity.slot) {key : String} {r : Reading}
    (h : Sayable known t key r) :
    KeepsTold cfg targets base known (publishValue cfg identity key r : TaskM (Watched σ) Unit)
      fun _ => [] := by
  unfold publishValue MqttClientConfig.publishValue
  cases hfind : sensorCatalog.find? fun s => s.key = key with
  | none => exact triple_throw _ fun w hw => hw.forget
  | some sensor =>
    have hsensor := List.mem_of_find?_eq_some hfind
    have hfound := List.find?_some hfind
    have hkey : sensor.key = key := of_decide_eq_true hfound
    rintro w ⟨hknown, ms, hbox, hms⟩
    refine ⟨hknown, ms ++ [⟨cfg.stateTopic identity sensor, false, .value r⟩], ?_, ?_⟩
    · show w.outbox ++ [_] = _
      rw [hbox, List.append_assoc]
    · intro m hm
      rcases List.mem_append.mp hm with hm | hm
      · exact hms m hm
      · obtain rfl := List.mem_singleton.mp hm
        have horigin := h.2 (hkey ▸ List.mem_map_of_mem hsensor)
        refine ⟨t, ht, sensor, hsensor, r, ?_, h.1 sensor hsensor hkey, ?_⟩
        · rw [MqttClientConfig.stateTopic, MqttClientConfig.stateTopic, hslot]
        · rw [hkey]
          exact horigin.mono hknown

theorem told_publishReadings {t : Target} (ht : t ∈ targets) {identity : InverterIdentity}
    (hslot : identity.slot = t.identity.slot) {readings : List (String × Option Reading)}
    (h : ∀ key r, (key, some r) ∈ readings → Sayable known t key r) :
    KeepsTold cfg targets base known
      (publishReadings cfg identity readings : TaskM (Watched σ) Unit) fun _ => [] := by
  induction readings with
  | nil => exact told_done ()
  | cons p rest ih =>
    have hrest := ih fun key r hr => h key r (List.mem_cons_of_mem _ hr)
    obtain ⟨key, value⟩ := p
    cases value with
    | none => exact hrest
    | some r => exact (told_publishValue ht hslot (h key r List.mem_cons_self)).bind fun _ => hrest

/-! ### Replies -/

/-- The readings of a reply that is known. -/
theorem sayable_reply {t : Target} {kind : QueryKind} {body : List UInt8} {key : String} {r : Reading}
    (hlog : .query t.susyId t.serial kind (.ok body) ∈ known)
    (hr : (key, some r) ∈ readingsOf kind body ++ nameplateOf kind body) : Sayable known t key r := by
  refine ⟨?_, fun _ => .reply hlog hr⟩
  rcases List.mem_append.mp hr with hr | hr
  · exact readingsOf_fit kind body _ hr r rfl
  · exact nameplateOf_fit kind body _ hr r rfl

theorem sayable_event {t : Target} {start stop : UInt32} {body : List UInt8} {key : String}
    {r : Reading} (hlog : .eventLog t.susyId t.serial start stop (.ok body) ∈ known)
    (hr : (key, some r) ∈ eventReadingsOf body) : Sayable known t key r :=
  ⟨eventReadingsOf_fit body _ hr r rfl, fun _ => .event hlog hr⟩

/-- The failure counter has no sensor. -/
theorem sayable_failures {t : Target} {r : Reading} : Sayable known t "consecutive_failures" r :=
  ⟨fun s hs hkey => absurd (hkey ▸ List.mem_map_of_mem hs) (show "consecutive_failures" ∉ sensorKeys by
      decide +kernel),
    fun hkey => absurd hkey (by decide +kernel)⟩

variable [Link σ]

theorem told_queryForDevice (t : Target) (kind : QueryKind) :
    KeepsTold cfg targets base known (queryForDevice t kind : TaskM (Watched σ) _)
      fun result => [.query t.susyId t.serial kind result] :=
  told_ask (.query t.susyId t.serial kind) fun _ => rfl

theorem told_utcNow : KeepsTold cfg targets base known (ask Link.utcNow : TaskM (Watched σ) Int)
    fun now => [.utc now] := told_ask .utc fun _ => rfl

theorem told_instantNow : KeepsTold cfg targets base known (ask Link.instantNow : TaskM (Watched σ) Nat)
    fun now => [.instant now] := told_ask .instant fun _ => rfl

theorem told_gracefulClose :
    KeepsTold cfg targets base known
      (ask fun link => ((), Link.gracefulClose link) : TaskM (Watched σ) Unit) fun _ => [.closed] :=
  told_ask (fun _ => .closed) fun _ => rfl

end Task

/-! ## A session -/

namespace Task

variable {σ : Type} [Link σ] (cfg : InverterCfg) {targets : List Target} {base : List Message}
  {known : List LinkEvent}

/-- The event log of each target. -/
theorem told_eventLogTargets (start stop : UInt32) {ts : List Target} (hts : ∀ t ∈ ts, t ∈ targets) :
    KeepsTold cfg.mqtt targets base known (eventLogTargets cfg start stop ts : TaskM (Watched σ) Unit)
      fun _ => [] := by
  induction ts generalizing known with
  | nil => exact told_done ()
  | cons t ts ih =>
    rw [List.forall_mem_cons] at hts
    refine (told_ask (.eventLog t.susyId t.serial start stop) fun _ => rfl).bind fun result => ?_
    cases result with
    | error e => exact ih hts.2
    | ok body =>
      have hsay : ∀ key r, (key, some r) ∈ eventReadingsOf body →
          Sayable ([.eventLog t.susyId t.serial start stop (.ok body)] ++ known) t key r :=
        fun key r hr => sayable_event List.mem_cons_self hr
      simp only [eventReadingsOf, List.mem_cons, Prod.mk.injEq, List.not_mem_nil, or_false] at hsay
      simp only
      cases hlatest : latestEvent (parseEventLogRecords body) with
      | none => exact ih hts.2
      | some latest =>
        rw [hlatest] at hsay
        refine (told_publishValue hts.1 rfl (hsay _ _ (.inl ⟨rfl, rfl⟩))).bind fun _ => ?_
        refine (told_publishValue hts.1 rfl (hsay _ _ (.inr (.inl ⟨rfl, rfl⟩)))).bind fun _ => ?_
        refine (told_publishValue hts.1 rfl (hsay _ _ (.inr (.inr ⟨rfl, rfl⟩)))).bind fun _ => ?_
        exact ih hts.2

theorem told_eventLogOneShot :
    KeepsTold cfg.mqtt targets base known (eventLogOneShot cfg targets : TaskM (Watched σ) Unit)
      fun _ => [] := by
  unfold eventLogOneShot
  split
  · exact told_utcNow.bind fun now => told_eventLogTargets cfg _ _ fun t ht => ht
  · exact told_done ()

/-- A nameplate query and what is published of its reply. -/
theorem sayable_nameplate {t : Target} (kind : QueryKind) {α : Type} {parse : List UInt8 → Option α}
    {f : α → Reading} {key : String} {result : Except SessionError (List UInt8)}
    (hof : ∀ body, nameplateOf kind body = [(key, (parse body).map f)])
    (hlog : .query t.susyId t.serial kind result ∈ known) :
    ∀ key' r, (key', some r) ∈ [(key, (readingOf parse result).map f)] → Sayable known t key' r := by
  intro key' r hr
  cases result with
  | error e =>
    rw [List.mem_singleton, Prod.mk.injEq] at hr
    nomatch hr.2
  | ok body =>
    refine sayable_reply hlog (List.mem_append_right _ ?_)
    rw [hof]
    exact hr

/-- Identity and nameplate of one target, which stays the same device. -/
theorem triple_identityOneShot {t : Target} (ht : t ∈ targets) :
    Triple (Told cfg.mqtt targets base known) (identityOneShot cfg t : TaskM (Watched σ) Target)
      (fun t' w => Told cfg.mqtt targets base known w ∧ SameDevice t t')
      (Told cfg.mqtt targets base []) := by
  refine Triple.bind (told_queryForDevice t .softwareVersion) fun version => ?_
  refine Triple.bind (told_publishReadings ht (by rfl)
    (sayable_nameplate .softwareVersion (fun _ => rfl) List.mem_cons_self)) fun _ => ?_
  refine Triple.bind (told_publishValue ht (by rfl)
    ⟨fits_of_shape .text (by decide) rfl, fun _ => .model⟩) fun _ => ?_
  refine Triple.bind (told_queryForDevice t .typeLabel) fun model => ?_
  refine Triple.bind (told_publishReadings ht (by rfl)
    (sayable_nameplate .typeLabel (fun _ => rfl) List.mem_cons_self)) fun _ => ?_
  refine Triple.bind (told_queryForDevice t .nominalAcPower) fun nominal => ?_
  refine Triple.bind (told_publishReadings ht (by rfl)
    (sayable_nameplate .nominalAcPower (fun _ => rfl) List.mem_cons_self)) fun _ => ?_
  refine Triple.bind (told_queryForDevice t .maxFeedInPower) fun maxFeedIn => ?_
  refine Triple.bind (told_publishReadings ht (by rfl)
    (sayable_nameplate .maxFeedInPower (fun _ => rfl) List.mem_cons_self)) fun _ => ?_
  exact triple_pure fun w hw => ⟨hw.known_of fun ev hev => by simp [hev], rfl, rfl, rfl⟩

/-- The devices of `ts`, whatever has been found out about them. -/
def DevicesOf (targets ts : List Target) : Prop := ∀ t ∈ ts, ∃ t₀ ∈ targets, SameDevice t₀ t

theorem triple_identityOneShots {ts : List Target} (hts : ∀ t ∈ ts, t ∈ targets) :
    Triple (Told cfg.mqtt targets base known)
      (identityOneShots cfg ts : TaskM (Watched σ) (List Target))
      (fun ts' w => Told cfg.mqtt targets base known w ∧ DevicesOf targets ts')
      (Told cfg.mqtt targets base []) := by
  induction ts with
  | nil => exact triple_pure fun w hw => ⟨hw, List.forall_mem_nil _⟩
  | cons t ts ih =>
    rw [List.forall_mem_cons] at hts
    refine (triple_identityOneShot cfg hts.1).bind fun t' => ?_
    refine Triple.bind (Q := fun ts' w => (Told cfg.mqtt targets base known w ∧ DevicesOf targets ts')
      ∧ SameDevice t t') ?_ fun ts' => ?_
    · intro w hw
      have hrest := ih hts.2 w hw.1
      cases hrun : (identityOneShots cfg ts).run w with
      | ok ts' w' =>
        rw [hrun] at hrest
        exact ⟨hrest, hw.2⟩
      | error panic w' =>
        rw [hrun] at hrest
        exact hrest
    · refine triple_pure fun w hw => ⟨hw.1.1, ?_⟩
      intro t₁ ht₁
      rcases List.mem_cons.mp ht₁ with rfl | ht₁
      · exact ⟨t, hts.1, hw.2⟩
      · exact hw.1.2 t₁ ht₁

/-! ### Ticks -/

/-- The sweep of a target; if it is completed, all of its queries were answered. -/
theorem triple_sweep {t₀ t : Target} (ht : t₀ ∈ targets) (hsame : SameDevice t₀ t)
    (kinds : List QueryKind) :
    Triple (Told cfg.mqtt targets base known) (sweep cfg t kinds : TaskM (Watched σ) SweepEnd)
      (fun r w => ∃ answered, (r = .completed → ∀ kind ∈ kinds,
          ∃ body, .query t₀.susyId t₀.serial kind (.ok body) ∈ answered) ∧
        Told cfg.mqtt targets base (answered ++ known) w)
      (Told cfg.mqtt targets base []) := by
  obtain ⟨hsusy, hserial, hslot⟩ := hsame
  induction kinds generalizing known with
  | nil => exact triple_pure fun w hw => ⟨[], fun _ => List.forall_mem_nil _, hw⟩
  | cons kind kinds ih =>
    refine Triple.bind (told_queryForDevice t kind) fun result => ?_
    rw [hsusy, hserial]
    cases result with
    | ok body =>
      have hreply : ∀ key r, (key, some r) ∈ readingsOf kind body →
          Sayable ([.query t₀.susyId t₀.serial kind (.ok body)] ++ known) t₀ key r :=
        fun key r hr => sayable_reply List.mem_cons_self (List.mem_append_left _ hr)
      refine Triple.bind (told_publishReadings ht hslot hreply) fun _ => ?_
      refine ih.weaken (fun _ hw => hw) ?_
      rintro r w ⟨answered, hall, hw⟩
      refine ⟨.query t₀.susyId t₀.serial kind (.ok body) :: answered, ?_, ?_⟩
      · intro hcompleted kind' hkind'
        rcases List.mem_cons.mp hkind' with rfl | hkind'
        · exact ⟨body, List.mem_cons_self⟩
        · obtain ⟨body', hbody'⟩ := hall hcompleted kind' hkind'
          exact ⟨body', List.mem_cons_of_mem _ hbody'⟩
      · refine hw.known_of fun ev hev => ?_
        simp only [List.mem_append, List.mem_cons, List.not_mem_nil, or_false, false_or] at hev ⊢
        tauto
    | error e =>
      have herror : Sayable ([.query t₀.susyId t₀.serial kind (.error e)] ++ known) t₀ "poll_status"
          (.text "error") :=
        ⟨fits_of_shape .text (by decide) rfl, fun _ => .error List.mem_cons_self⟩
      have hend : ∀ r, r ≠ SweepEnd.completed →
          Triple (Told cfg.mqtt targets base
              ([.query t₀.susyId t₀.serial kind (.error e)] ++ known))
            (do
              publishValue cfg.mqtt t.identity "poll_status" (.text "error")
              pure r : TaskM (Watched σ) SweepEnd)
            (fun r w => ∃ answered, (r = .completed → ∀ kind' ∈ kind :: kinds,
                ∃ body, .query t₀.susyId t₀.serial kind' (.ok body) ∈ answered) ∧
              Told cfg.mqtt targets base (answered ++ known) w)
            (Told cfg.mqtt targets base []) := by
        intro r hr
        refine Triple.bind (told_publishValue ht hslot herror) fun _ => ?_
        refine triple_pure fun w hw => ⟨[], fun h => absurd h hr, hw.known_of fun ev hev => ?_⟩
        exact List.mem_append_right _ (List.mem_append_right _ hev)
      simp only
      split
      · exact hend .fatal (by decide)
      · exact hend .failed (by decide)

/-- Behind a sweep without an error, all of its queries answered. -/
theorem told_targetCompleted {sessionStart : Int} (hstart : .utc sessionStart ∈ known)
    {t₀ t : Target} (ht : t₀ ∈ targets) (hsame : SameDevice t₀ t)
    (hall : ∀ kind ∈ perTickQueries, ∃ body, .query t₀.susyId t₀.serial kind (.ok body) ∈ known)
    (st : PollState) :
    KeepsTold cfg.mqtt targets base known
      (targetCompleted cfg sessionStart t st : TaskM (Watched σ) PollState) fun _ => [] := by
  obtain ⟨-, -, hslot⟩ := hsame
  refine told_utcNow.bind fun now => ?_
  have hpolled : Sayable ([.utc now] ++ known) t₀ "last_poll" (.time now) :=
    ⟨fits_of_shape .time (by decide) rfl, fun _ => .polled List.mem_cons_self⟩
  have hok : Sayable ([.utc now] ++ known) t₀ "poll_status" (.text "ok") := by
    refine ⟨fits_of_shape .text (by decide) rfl, fun _ => .ok fun kind hkind => ?_⟩
    obtain ⟨body, hbody⟩ := hall kind hkind
    exact ⟨body, List.mem_cons_of_mem _ hbody⟩
  have huptime : Sayable ([.utc now] ++ known) t₀ "session_uptime"
      (.int ((now - sessionStart).tdiv 1000000000)) :=
    ⟨fits_of_shape .number (by decide) rfl,
      fun _ => .uptime List.mem_cons_self (List.mem_cons_of_mem _ hstart)⟩
  refine (told_publishValue ht hslot hpolled).bind fun _ => ?_
  refine (told_publishValue ht hslot hok).bind fun _ => ?_
  refine (told_publishValue ht hslot huptime).bind fun _ => ?_
  refine (told_publishValue ht hslot sayable_failures).bind fun _ => ?_
  exact told_done _

theorem told_targetFailed {t₀ t : Target} (ht : t₀ ∈ targets) (hsame : SameDevice t₀ t)
    (st : PollState) :
    KeepsTold cfg.mqtt targets base known
      (targetFailed cfg t st : TaskM (Watched σ) PollState) fun _ => [] := by
  unfold targetFailed
  simp only
  generalize (if (st.consecutiveFailures t.serial).getD 0 = 0xFFFFFFFF
    then (st.consecutiveFailures t.serial).getD 0
    else (st.consecutiveFailures t.serial).getD 0 + 1) = cf
  refine (told_publishValue ht hsame.2.2 sayable_failures).bind fun _ => ?_
  split
  · exact told_instantNow.bind fun now => told_done _
  · exact told_done _

theorem told_cooldownGate (t : Target) (st : PollState) :
    KeepsTold cfg.mqtt targets base known
      (cooldownGate t st : TaskM (Watched σ) (Bool × PollState)) fun _ => [] := by
  unfold cooldownGate
  split
  · exact told_done _
  · refine told_instantNow.bind fun now => ?_
    split
    · exact told_done _
    · exact told_done _

/-- **A turn** publishes values of its device. -/
theorem told_turn {sessionStart : Int} (hstart : .utc sessionStart ∈ known) {t₀ t : Target}
    (ht : t₀ ∈ targets) (hsame : SameDevice t₀ t) (st : PollState) :
    KeepsTold cfg.mqtt targets base known
      (turn cfg sessionStart t st : TaskM (Watched σ) (Option PollState)) fun _ => [] := by
  refine (told_cooldownGate cfg t st).bind fun gate => ?_
  obtain ⟨cooling, st⟩ := gate
  cases cooling with
  | true => exact told_done _
  | false =>
    refine (triple_sweep cfg ht hsame perTickQueries).bind fun ending => ?_
    refine triple_exists fun answered => triple_fact fun hall => ?_
    have hforget : ∀ {x : TaskM (Watched σ) (Option PollState)},
        KeepsTold cfg.mqtt targets base (answered ++ known) x (fun _ => []) →
          Triple (Told cfg.mqtt targets base (answered ++ ([] ++ known))) x
            (fun _ => Told cfg.mqtt targets base ([] ++ ([] ++ known)))
            (Told cfg.mqtt targets base []) := fun h =>
      h.weaken (fun _ hw => hw) fun _ _ hw => hw.known_of fun ev hev => by
        rw [List.nil_append] at hev ⊢
        exact List.mem_append_right _ hev
    cases ending with
    | fatal => exact hforget (told_done none)
    | failed =>
      exact hforget ((told_targetFailed cfg ht hsame st).bind fun _ => told_done _)
    | completed =>
      have hanswered : ∀ kind ∈ perTickQueries,
          ∃ body, .query t₀.susyId t₀.serial kind (.ok body) ∈ answered ++ known := by
        intro kind hkind
        obtain ⟨body, hbody⟩ := hall rfl kind hkind
        exact ⟨body, List.mem_append_left _ hbody⟩
      exact hforget ((told_targetCompleted cfg (List.mem_append_right _ hstart) ht hsame hanswered
        st).bind fun _ => told_done _)

theorem told_turns {sessionStart : Int} (hstart : .utc sessionStart ∈ known) {ts : List Target}
    (hts : DevicesOf targets ts) (st : PollState) :
    KeepsTold cfg.mqtt targets base known
      (turns cfg sessionStart ts st : TaskM (Watched σ) (Option PollState)) fun _ => [] := by
  induction ts generalizing st with
  | nil => exact told_done _
  | cons t ts ih =>
    obtain ⟨t₀, ht₀, hsame⟩ := hts t List.mem_cons_self
    refine (told_turn cfg hstart ht₀ hsame st).bind fun next => ?_
    cases next with
    | none => exact told_done _
    | some st => exact ih (fun t' ht' => hts t' (List.mem_cons_of_mem _ ht')) st

theorem told_pollLoop {sessionStart : Int} (hstart : .utc sessionStart ∈ known) {ts : List Target}
    (hts : DevicesOf targets ts) (ticks : Nat) (st : PollState) :
    KeepsTold cfg.mqtt targets base known
      (pollLoop cfg ts sessionStart ticks st : TaskM (Watched σ) LoopEnd) fun _ => [] := by
  induction ticks generalizing st with
  | zero => exact told_done _
  | succ ticks ih =>
    rw [pollLoop]
    simp only
    split
    · exact told_gracefulClose.bind fun _ => told_instantNow.bind fun _ => told_done _
    · refine (told_turns cfg hstart hts _).bind fun next => ?_
      cases next with
      | none => exact told_done _
      | some st => exact ih st

/-- **A session** publishes, behind its announcements, values of its devices and nothing else. -/
theorem told_pollPhase (ticks : Nat) {w : Task (Watched σ)}
    (hw : Told cfg.mqtt targets base [] w) :
    Told cfg.mqtt targets base [] (final ((pollPhase cfg targets ticks).run w)) := by
  refine Triple.final ?_ hw
  refine Triple.bind (told_eventLogOneShot cfg) fun _ => ?_
  refine Triple.bind (triple_identityOneShots cfg fun t ht => ht) fun ts => ?_
  rintro w ⟨hw, hts⟩
  refine Triple.bind told_utcNow (fun sessionStart => ?_) w hw
  refine Triple.bind (told_pollLoop cfg List.mem_cons_self hts ticks .new) fun loopEnd => ?_
  refine Triple.bind (Q := fun _ => Told cfg.mqtt targets base []) ?_ fun _ =>
    triple_pure fun w hw => hw
  unfold endSession
  split
  · exact triple_pure fun w hw => hw.forget
  · exact told_gracefulClose.weaken (fun w hw => hw) fun _ w hw => hw.forget

end Task

/-! ## Sessions of a task -/

section

variable {σ : Type} [Link σ]

/-- What passes between the task and its link in a session, as a watched link logs it. -/
def sessionLog (cfg : RunCfg) (s : RunState) (initSusy : UInt16) (initSerial : UInt32) (link : σ)
    (ticks : Nat) : List LinkEvent :=
  (final ((Task.pollPhase cfg.toInverterCfg (s.targets cfg initSusy initSerial) ticks).run
    ⟨Watched.mk link [], (s.loggedIn cfg initSusy initSerial link).outbox⟩)).link.log

/-- **Every value comes from its device.**  Whatever the task has done before and whatever the link
    answers, a session publishes its announcements and then nothing but values of its targets: each on a
    topic of the target's slot, in the shape of its sensor, and read off a reply to a question that
    was addressed to this target, or off the clock. -/
theorem session_values (cfg : RunCfg) (s : RunState) (initSusy : UInt16) (initSerial : UInt32)
    (link : σ) (ticks yieldedAt : Nat) :
    ∃ ms, (s.session cfg initSusy initSerial link ticks yieldedAt).outbox
        = (s.loggedIn cfg initSusy initSerial link).outbox ++ ms ∧
      ∀ m ∈ ms, ValueOf cfg.mqtt (s.targets cfg initSusy initSerial)
        (sessionLog cfg s initSusy initSerial link ticks) m := by
  let targets := s.targets cfg initSusy initSerial
  let base := (s.loggedIn cfg initSusy initSerial link).outbox
  -- the session over the link publishes what it publishes over the watched link
  have hsame :
      (final ((Task.pollPhase cfg.toInverterCfg targets ticks).run ⟨Watched.mk link [], base⟩)).outbox
      = (final ((Task.pollPhase cfg.toInverterCfg targets ticks).run ⟨link, base⟩)).outbox :=
    (Task.lockstep_pollPhase watched_inStep cfg.toInverterCfg targets ticks ⟨Watched.mk link [], base⟩ ⟨link, base⟩
      ⟨rfl, rfl⟩).2.outbox
  have hstart : Task.Told cfg.mqtt targets base [] (⟨Watched.mk link [], base⟩ : Task (Watched σ)) :=
    ⟨List.forall_mem_nil _, [], (List.append_nil _).symm, List.forall_mem_nil _⟩
  obtain ⟨-, ms, hbox, hms⟩ := Task.told_pollPhase cfg.toInverterCfg ticks hstart
  refine ⟨ms, ?_, hms⟩
  rw [← hbox, hsame, RunState.session]
  simp only
  split <;> rfl

end

end HassSma
