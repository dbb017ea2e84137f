/-
  Links that cannot be told apart by the daemon (`daemon/src/main.rs`).

  `LinksInStep P L`: two links of which each question gets the same answer on both, where queries go to
  serials in `P`.  Every part of the daemon's program goes in step over them, one lemma for each
  function of the program, up to a whole session (`Task.lockstep_sessionLife`): it publishes the same
  and ends in the same way.

  A link and the same link with a log are in step (`watched_inStep`), so what is proved of a session
  over a watched link holds of a session over any link.
-/
import HassSma.Daemon.OwnTurn
import HassSma.Daemon.Reconnect
import HassSma.Lib.Lockstep

namespace HassSma

open Fallible

/-- Each question gets the same answer on both links, and they stay related.  A query is one to a serial
    in `P`. -/
structure LinksInStep {σ τ : Type} [Link σ] [Link τ] (P : UInt32 → Prop) (L : σ → τ → Prop) : Prop where
  query : ∀ {l m}, L l m → ∀ susyId serial kind, P serial →
    (Link.queryForDevice l susyId serial kind).1 = (Link.queryForDevice m susyId serial kind).1 ∧
      L (Link.queryForDevice l susyId serial kind).2 (Link.queryForDevice m susyId serial kind).2
  eventLog : ∀ {l m}, L l m → ∀ susyId serial start stop, P serial →
    (Link.queryEventLogForDevice l susyId serial start stop).1
        = (Link.queryEventLogForDevice m susyId serial start stop).1 ∧
      L (Link.queryEventLogForDevice l susyId serial start stop).2
        (Link.queryEventLogForDevice m susyId serial start stop).2
  close : ∀ {l m}, L l m → L (Link.gracefulClose l) (Link.gracefulClose m)
  instant : ∀ {l m}, L l m → (Link.instantNow l).1 = (Link.instantNow m).1 ∧
    L (Link.instantNow l).2 (Link.instantNow m).2
  utc : ∀ {l m}, L l m → (Link.utcNow l).1 = (Link.utcNow m).1 ∧
    L (Link.utcNow l).2 (Link.utcNow m).2

/-- Two tasks over such links that have published the same. -/
structure TasksInStep {σ τ : Type} (L : σ → τ → Prop) (w : Task σ) (v : Task τ) : Prop where
  link : L w.link v.link
  outbox : w.outbox = v.outbox

theorem forall_serial_of_sameAddress {P : UInt32 → Prop} {ts ts' : List Target}
    (h : List.Forall₂ Task.SameAddress ts ts') (hts : ∀ t ∈ ts, P t.serial) : ∀ t ∈ ts', P t.serial := by
  induction h with
  | nil => exact hts
  | @cons t t' ts ts' haddr _ ih =>
    rw [List.forall_mem_cons] at hts ⊢
    refine ⟨?_, ih hts.2⟩
    rw [haddr.2]
    exact hts.1

namespace Task

variable {σ τ : Type} {P : UInt32 → Prop} {L : σ → τ → Prop}

theorem lockstep_send (ms : List Message) :
    Lockstep (TasksInStep L) (send ms : TaskM σ Unit) (send ms : TaskM τ Unit) := by
  intro w v h
  exact ⟨rfl, h.link, congrArg (· ++ ms) h.outbox⟩

theorem lockstep_ask {α : Type} {f : σ → α × σ} {g : τ → α × τ}
    (hfg : ∀ {l m}, L l m → (f l).1 = (g m).1 ∧ L (f l).2 (g m).2) :
    Lockstep (TasksInStep L) (ask f : TaskM σ α) (ask g : TaskM τ α) := by
  intro w v h
  obtain ⟨hsame, hlink⟩ := hfg h.link
  exact ⟨congrArg Except.ok hsame, hlink, h.outbox⟩

theorem lockstep_publishValue (cfg : MqttClientConfig) (identity : InverterIdentity)
    (sensorKey : String) (value : Reading) :
    Lockstep (TasksInStep L) (publishValue cfg identity sensorKey value : TaskM σ Unit)
      (publishValue cfg identity sensorKey value : TaskM τ Unit) := by
  unfold publishValue
  cases cfg.publishValue identity sensorKey value with
  | ok m => exact lockstep_send [m]
  | error panic => exact lockstep_throw panic

theorem lockstep_publishReadings (cfg : MqttClientConfig) (identity : InverterIdentity)
    (readings : List (String × Option Reading)) :
    Lockstep (TasksInStep L) (publishReadings cfg identity readings : TaskM σ Unit)
      (publishReadings cfg identity readings : TaskM τ Unit) := by
  induction readings with
  | nil => exact lockstep_pure ()
  | cons r rest ih =>
    obtain ⟨sensorKey, value⟩ := r
    cases value with
    | none => exact ih
    | some value => exact (lockstep_publishValue cfg identity sensorKey value).bind fun _ => ih

theorem lockstep_announceTargets (cfg : InverterCfg) (targets : List Target) :
    Lockstep (TasksInStep L) (announceTargets cfg targets : TaskM σ Unit)
      (announceTargets cfg targets : TaskM τ Unit) := by
  induction targets with
  | nil => exact lockstep_pure ()
  | cons t ts ih => exact (lockstep_send _).bind fun _ => (lockstep_send _).bind fun _ => ih

variable [Link σ] [Link τ] (hstep : LinksInStep P L) (cfg : InverterCfg)

include hstep

theorem lockstep_queryForDevice {t : Target} (ht : P t.serial) (kind : QueryKind) :
    Lockstep (TasksInStep L) (queryForDevice t kind : TaskM σ _)
      (queryForDevice t kind : TaskM τ _) :=
  lockstep_ask fun h => hstep.query h t.susyId t.serial kind ht

theorem lockstep_instantNow :
    Lockstep (TasksInStep L) (ask Link.instantNow : TaskM σ Nat) (ask Link.instantNow : TaskM τ Nat) :=
  lockstep_ask fun h => hstep.instant h

theorem lockstep_utcNow :
    Lockstep (TasksInStep L) (ask Link.utcNow : TaskM σ Int) (ask Link.utcNow : TaskM τ Int) :=
  lockstep_ask fun h => hstep.utc h

theorem lockstep_close :
    Lockstep (TasksInStep L) (ask fun l => ((), Link.gracefulClose l) : TaskM σ Unit)
      (ask fun l => ((), Link.gracefulClose l) : TaskM τ Unit) :=
  lockstep_ask fun h => ⟨rfl, hstep.close h⟩

/-! ### One-shot queries -/

theorem lockstep_eventLogTargets (start stop : UInt32) {targets : List Target}
    (hts : ∀ t ∈ targets, P t.serial) :
    Lockstep (TasksInStep L) (eventLogTargets cfg start stop targets : TaskM σ Unit)
      (eventLogTargets cfg start stop targets : TaskM τ Unit) := by
  induction targets with
  | nil => exact lockstep_pure ()
  | cons t ts ih =>
    rw [List.forall_mem_cons] at hts
    have hask : Lockstep (TasksInStep L)
        (ask fun l => Link.queryEventLogForDevice l t.susyId t.serial start stop : TaskM σ _)
        (ask fun l => Link.queryEventLogForDevice l t.susyId t.serial start stop : TaskM τ _) :=
      lockstep_ask fun h => hstep.eventLog h t.susyId t.serial start stop hts.1
    refine hask.bind fun result => ?_
    cases result with
    | error e => exact ih hts.2
    | ok body =>
      simp only
      cases latestEvent (parseEventLogRecords body) with
      | none => exact ih hts.2
      | some latest =>
        refine (lockstep_publishValue cfg.mqtt t.identity _ _).bind fun _ => ?_
        refine (lockstep_publishValue cfg.mqtt t.identity _ _).bind fun _ => ?_
        exact (lockstep_publishValue cfg.mqtt t.identity _ _).bind fun _ => ih hts.2

theorem lockstep_eventLogOneShot {targets : List Target} (hts : ∀ t ∈ targets, P t.serial) :
    Lockstep (TasksInStep L) (eventLogOneShot cfg targets : TaskM σ Unit)
      (eventLogOneShot cfg targets : TaskM τ Unit) := by
  unfold eventLogOneShot
  split
  · exact (lockstep_utcNow hstep).bind fun _ => lockstep_eventLogTargets hstep cfg _ _ hts
  · exact lockstep_pure ()

theorem lockstep_identityOneShot {t : Target} (ht : P t.serial) :
    Lockstep (TasksInStep L) (identityOneShot cfg t : TaskM σ Target)
      (identityOneShot cfg t : TaskM τ Target) := by
  refine (lockstep_queryForDevice hstep ht _).bind fun version => ?_
  refine (lockstep_publishReadings cfg.mqtt _ _).bind fun _ => ?_
  refine (lockstep_publishValue cfg.mqtt _ _ _).bind fun _ => ?_
  refine (lockstep_queryForDevice hstep ht _).bind fun model => ?_
  refine (lockstep_publishReadings cfg.mqtt _ _).bind fun _ => ?_
  refine (lockstep_queryForDevice hstep ht _).bind fun nominal => ?_
  refine (lockstep_publishReadings cfg.mqtt _ _).bind fun _ => ?_
  refine (lockstep_queryForDevice hstep ht _).bind fun maxFeedIn => ?_
  exact (lockstep_publishReadings cfg.mqtt _ _).bind fun _ => lockstep_pure _

theorem lockstep_identityOneShots {targets : List Target} (hts : ∀ t ∈ targets, P t.serial) :
    Lockstep (TasksInStep L) (identityOneShots cfg targets : TaskM σ (List Target))
      (identityOneShots cfg targets : TaskM τ (List Target)) := by
  induction targets with
  | nil => exact lockstep_pure _
  | cons t ts ih =>
    rw [List.forall_mem_cons] at hts
    refine (lockstep_identityOneShot hstep cfg hts.1).bind fun t' => ?_
    exact (ih hts.2).bind fun ts' => lockstep_pure _

theorem lockstep_oneShots {targets : List Target} (hts : ∀ t ∈ targets, P t.serial) :
    Lockstep (TasksInStep L) (oneShots cfg targets : TaskM σ (List Target))
      (oneShots cfg targets : TaskM τ (List Target)) := by
  refine (lockstep_announceTargets cfg targets).bind fun _ => ?_
  refine (lockstep_eventLogOneShot hstep cfg hts).bind fun _ => ?_
  exact lockstep_identityOneShots hstep cfg hts

/-! ### Ticks -/

theorem lockstep_sweep {t : Target} (ht : P t.serial) (kinds : List QueryKind) :
    Lockstep (TasksInStep L) (sweep cfg t kinds : TaskM σ SweepEnd)
      (sweep cfg t kinds : TaskM τ SweepEnd) := by
  induction kinds with
  | nil => exact lockstep_pure _
  | cons kind kinds ih =>
    refine (lockstep_queryForDevice hstep ht kind).bind fun result => ?_
    cases result with
    | ok body => exact (lockstep_publishReadings cfg.mqtt t.identity _).bind fun _ => ih
    | error e =>
      simp only
      split
      · exact (lockstep_publishValue cfg.mqtt t.identity _ _).bind fun _ => lockstep_pure _
      · exact (lockstep_publishValue cfg.mqtt t.identity _ _).bind fun _ => lockstep_pure _

theorem lockstep_targetCompleted (sessionStart : Int) (t : Target) (st : PollState) :
    Lockstep (TasksInStep L) (targetCompleted cfg sessionStart t st : TaskM σ PollState)
      (targetCompleted cfg sessionStart t st : TaskM τ PollState) := by
  refine (lockstep_utcNow hstep).bind fun now => ?_
  refine (lockstep_publishValue cfg.mqtt t.identity _ _).bind fun _ => ?_
  refine (lockstep_publishValue cfg.mqtt t.identity _ _).bind fun _ => ?_
  refine (lockstep_publishValue cfg.mqtt t.identity _ _).bind fun _ => ?_
  exact (lockstep_publishValue cfg.mqtt t.identity _ _).bind fun _ => lockstep_pure _

theorem lockstep_targetFailed (t : Target) (st : PollState) :
    Lockstep (TasksInStep L) (targetFailed cfg t st : TaskM σ PollState)
      (targetFailed cfg t st : TaskM τ PollState) := by
  refine (lockstep_publishValue cfg.mqtt t.identity _ _).bind fun _ => ?_
  -- the counter may be at its top or not; the rest is the same
  split
  all_goals
    simp only
    split
    · exact (lockstep_instantNow hstep).bind fun now => lockstep_pure _
    · exact lockstep_pure _

omit cfg in
theorem lockstep_cooldownGate (t : Target) (st : PollState) :
    Lockstep (TasksInStep L) (cooldownGate t st : TaskM σ (Bool × PollState))
      (cooldownGate t st : TaskM τ (Bool × PollState)) := by
  unfold cooldownGate
  split
  · exact lockstep_pure _
  · refine (lockstep_instantNow hstep).bind fun now => ?_
    split
    · exact lockstep_pure _
    · exact lockstep_pure _

theorem lockstep_turn (sessionStart : Int) {t : Target} (ht : P t.serial) (st : PollState) :
    Lockstep (TasksInStep L) (turn cfg sessionStart t st : TaskM σ (Option PollState))
      (turn cfg sessionStart t st : TaskM τ (Option PollState)) := by
  refine (lockstep_cooldownGate hstep t st).bind fun gate => ?_
  obtain ⟨cooling, st⟩ := gate
  simp only
  split
  · exact lockstep_pure _
  · refine (lockstep_sweep hstep cfg ht perTickQueries).bind fun ending => ?_
    cases ending with
    | fatal => exact lockstep_pure _
    | completed =>
      exact (lockstep_targetCompleted hstep cfg sessionStart t st).bind fun _ => lockstep_pure _
    | failed => exact (lockstep_targetFailed hstep cfg t st).bind fun _ => lockstep_pure _

theorem lockstep_turns (sessionStart : Int) {targets : List Target} (hts : ∀ t ∈ targets, P t.serial)
    (st : PollState) :
    Lockstep (TasksInStep L) (turns cfg sessionStart targets st : TaskM σ (Option PollState))
      (turns cfg sessionStart targets st : TaskM τ (Option PollState)) := by
  induction targets generalizing st with
  | nil => exact lockstep_pure _
  | cons t ts ih =>
    rw [List.forall_mem_cons] at hts
    refine (lockstep_turn hstep cfg sessionStart hts.1 st).bind fun outcome => ?_
    cases outcome with
    | none => exact lockstep_pure _
    | some st => exact ih hts.2 st

/-- The loop, by induction on the ticks. -/
theorem lockstep_pollLoop {targets : List Target} (hts : ∀ t ∈ targets, P t.serial) (sessionStart : Int)
    (ticks : Nat) (st : PollState) :
    Lockstep (TasksInStep L) (pollLoop cfg targets sessionStart ticks st : TaskM σ LoopEnd)
      (pollLoop cfg targets sessionStart ticks st : TaskM τ LoopEnd) := by
  induction ticks generalizing st with
  | zero => exact lockstep_pure _
  | succ ticks ih =>
    rw [pollLoop, pollLoop]
    simp only
    split
    · refine (lockstep_close hstep).bind fun _ => ?_
      exact (lockstep_instantNow hstep).bind fun _ => lockstep_pure _
    · refine (lockstep_turns hstep cfg sessionStart hts _).bind fun outcome => ?_
      cases outcome with
      | none => exact lockstep_pure _
      | some st => exact ih st

/-! ### Sessions -/

omit cfg in
theorem lockstep_endSession (loopEnd : LoopEnd) :
    Lockstep (TasksInStep L) (endSession loopEnd : TaskM σ Unit)
      (endSession loopEnd : TaskM τ Unit) := by
  unfold endSession
  split
  · exact lockstep_pure ()
  · exact lockstep_close hstep

theorem lockstep_sessionLife {targets : List Target} (hts : ∀ t ∈ targets, P t.serial) (ticks : Nat) :
    Lockstep (TasksInStep L) (sessionLife cfg targets ticks : TaskM σ Unit)
      (sessionLife cfg targets ticks : TaskM τ Unit) := by
  -- the targets keep their addresses, whatever the one-shot queries find out about them
  have hshots : ∀ {w : Task σ} {targets' w'}, (oneShots cfg targets).run w = .ok targets' w' →
      ∀ t ∈ targets', P t.serial := by
    intro w targets' w' hrun
    obtain ⟨a, w₁, hrun', -, haddr⟩ := reaches_oneShots cfg targets w
    rw [hrun] at hrun'
    obtain ⟨rfl, -⟩ := EStateM.Result.ok.inj hrun'
    exact forall_serial_of_sameAddress haddr hts
  refine (lockstep_oneShots hstep cfg hts).bind_of (fun w a w' hrun => hshots hrun) fun targets' hts' => ?_
  refine (lockstep_utcNow hstep).bind fun sessionStart => ?_
  refine (lockstep_pollLoop hstep cfg hts' sessionStart ticks .new).bind fun loopEnd => ?_
  exact lockstep_endSession hstep loopEnd

end Task

/-- From the announcements on, over links that answer every serial alike. -/
theorem Task.lockstep_pollPhase {σ τ : Type} [Link σ] [Link τ] {L : σ → τ → Prop}
    (hstep : LinksInStep (fun _ => True) L) (cfg : InverterCfg) (targets : List Target) (ticks : Nat) :
    Lockstep (TasksInStep L) (pollPhase cfg targets ticks : TaskM σ LoopEnd)
      (pollPhase cfg targets ticks : TaskM τ LoopEnd) := by
  have hany : ∀ ts : List Target, ∀ t ∈ ts, (fun _ : UInt32 => True) t.serial :=
    fun _ _ _ => trivial
  refine (lockstep_eventLogOneShot hstep cfg (hany targets)).bind fun _ => ?_
  refine (lockstep_identityOneShots hstep cfg (hany targets)).bind fun ts => ?_
  refine (lockstep_utcNow hstep).bind fun sessionStart => ?_
  refine (lockstep_pollLoop hstep cfg (hany ts) sessionStart ticks .new).bind fun loopEnd => ?_
  exact (lockstep_endSession hstep loopEnd).bind fun _ => lockstep_pure loopEnd

/-! ## A link with a log -/

/-- **Watching a link changes nothing.** -/
theorem watched_inStep {σ : Type} [Link σ] :
    LinksInStep (fun _ => True) (fun (w : Watched σ) (l : σ) => w.link = l) where
  query h susyId serial kind _ := by
    subst h
    exact ⟨rfl, rfl⟩
  eventLog h susyId serial start stop _ := by
    subst h
    exact ⟨rfl, rfl⟩
  close h := by
    subst h
    rfl
  instant h := by
    subst h
    exact ⟨rfl, rfl⟩
  utc h := by
    subst h
    exact ⟨rfl, rfl⟩

end HassSma
