/-
  The turn of one target in the poll loop (`run_inverter` in `daemon/src/main.rs`).

  A turn reads the failure counter and the cooldown of its own target and writes them back: the turn of
  the loop is a turn on the target's own entries (`Task.ownTurn`, `Task.turn_eq`).  The way a
  reading becomes a message is a parameter of it (`Publisher`).

  * **Two runs** — `Task.alike_ownTurn`: from the same entries and with the same answers from the
    link, a turn asks and publishes the same, and leaves the same entries.
  * **What it keeps** — `Task.TurnKeeps.ownTurn`: whatever the questions and the publications keep.
  * **How it ends** — with a publisher that knows every key it does not panic (`Task.ends_ownTurn`), and
    if it reports a broken session, a query has failed with a fatal error (`Task.fatal_of_ownTurn`).

  What passes between the task and its link is read off a log (`Watched`).
-/
import HassSma.Daemon.PollLoop
import HassSma.Lib.TwoRuns

namespace HassSma

open Fallible TwoRuns

/-! ## One target's turn -/

/-- The way a value is turned into a message, if it can be. -/
abbrev Publisher := InverterIdentity → String → Reading → Except Panic Message

/-- What is remembered of one target: its failure counter and the end of its cooldown. -/
structure OwnState where
  failures : Option UInt32
  skipUntil : Option Nat

/-- The counter behind one more failure. -/
def OwnState.countFailure (own : OwnState) : UInt32 :=
  let before := own.failures.getD 0
  if before = 0xFFFFFFFF then before else before + 1

namespace PollState

/-- The entries of one target. -/
def own (st : PollState) (serial : UInt32) : OwnState :=
  ⟨st.consecutiveFailures serial, st.skipUntil serial⟩

def put (st : PollState) (serial : UInt32) (own : OwnState) : PollState :=
  { st with
    consecutiveFailures := Function.update st.consecutiveFailures serial own.failures
    skipUntil := Function.update st.skipUntil serial own.skipUntil }

variable (st : PollState) (serial : UInt32) (own : OwnState)

@[simp] theorem own_put : (st.put serial own).own serial = own := by
  simp [PollState.own, put]

@[simp] theorem put_own : st.put serial (st.own serial) = st := by
  simp [PollState.own, put]

/-- The others' entries stay. -/
theorem own_put_of_ne {serial serial' : UInt32} (h : serial' ≠ serial) :
    (st.put serial own).own serial' = st.own serial' := by
  simp [PollState.own, put, h]

end PollState

namespace Task

variable {σ : Type}

section

variable (say : Publisher)

def sayValue (identity : InverterIdentity) (sensorKey : String) (value : Reading) : TaskM σ Unit :=
  match say identity sensorKey value with
  | .ok m => send [m]
  | .error panic => throw panic

def sayReadings (identity : InverterIdentity) : List (String × Option Reading) → TaskM σ Unit
  | [] => pure ()
  | (_, none) :: rest => sayReadings identity rest
  | (sensorKey, some value) :: rest => do
    sayValue say identity sensorKey value
    sayReadings identity rest

variable [Link σ]

/-- The sweep, up to its first error. -/
def ownSweep (t : Target) : List QueryKind → TaskM σ SweepEnd
  | [] => pure .completed
  | kind :: kinds => do
    match ← queryForDevice t kind with
    | .ok body =>
      sayReadings say t.identity (readingsOf kind body)
      ownSweep t kinds
    | .error e =>
      sayValue say t.identity "poll_status" (.text "error")
      pure (if e.isSessionFatal then .fatal else .failed)

def ownCompleted (sessionStart : Int) (t : Target) (own : OwnState) : TaskM σ OwnState := do
  let now ← ask Link.utcNow
  sayValue say t.identity "last_poll" (.time now)
  sayValue say t.identity "poll_status" (.text "ok")
  sayValue say t.identity "session_uptime" (.int ((now - sessionStart).tdiv 1000000000))
  sayValue say t.identity "consecutive_failures" (.int 0)
  pure { own with failures := some 0 }

def ownFailed (t : Target) (own : OwnState) : TaskM σ OwnState := do
  let cf := own.countFailure
  sayValue say t.identity "consecutive_failures" (.int cf.toNat)
  let own := { own with failures := some cf }
  if cf ≥ cooldownThreshold then
    let secs := cooldownLadderSecs.getD (cf - cooldownThreshold).toNat 1800
    let now ← ask Link.instantNow
    pure { own with skipUntil := some (now + secs * 1000000000) }
  else pure own

omit say in
def ownGate (own : OwnState) : TaskM σ (Bool × OwnState) := do
  match own.skipUntil with
  | none => pure (false, own)
  | some skipUntil =>
    let now ← ask Link.instantNow
    if now < skipUntil then pure (true, own)
    else pure (false, { own with skipUntil := none })

/-- **A turn**, from the target's own entries to its own entries; `none` if the session is broken. -/
def ownTurn (sessionStart : Int) (t : Target) (own : OwnState) : TaskM σ (Option OwnState) := do
  let (cooling, own) ← ownGate own
  if cooling then pure (some own)
  else
    match ← ownSweep say t perTickQueries with
    | .fatal => pure none
    | .completed =>
      let own ← ownCompleted say sessionStart t own
      pure (some own)
    | .failed =>
      let own ← ownFailed say t own
      pure (some own)

end

/-! ### The turn of the loop -/

section

variable (cfg : InverterCfg)

theorem publishValue_eq (identity : InverterIdentity) (sensorKey : String) (value : Reading) :
    (publishValue cfg.mqtt identity sensorKey value : TaskM σ Unit)
      = sayValue cfg.mqtt.publishValue identity sensorKey value := rfl

theorem publishReadings_eq (identity : InverterIdentity)
    (readings : List (String × Option Reading)) :
    (publishReadings cfg.mqtt identity readings : TaskM σ Unit)
      = sayReadings cfg.mqtt.publishValue identity readings := by
  induction readings with
  | nil => rfl
  | cons r rest ih =>
    obtain ⟨sensorKey, value⟩ := r
    cases value with
    | none => exact ih
    | some value => rw [publishReadings, sayReadings, ih, publishValue_eq]

variable [Link σ]

theorem sweep_eq (t : Target) (kinds : List QueryKind) :
    (sweep cfg t kinds : TaskM σ SweepEnd) = ownSweep cfg.mqtt.publishValue t kinds := by
  induction kinds with
  | nil => rfl
  | cons kind kinds ih =>
    rw [sweep, ownSweep]
    refine congrArg _ (funext fun result => ?_)
    cases result with
    | ok body =>
      simp only [publishQueryResult, publishReadings_eq, ih]
    | error e =>
      simp only [publishValue_eq]
      cases e.isSessionFatal with
      | true => rfl
      | false => rfl

theorem cooldownGate_eq (t : Target) (st : PollState) :
    (cooldownGate t st : TaskM σ (Bool × PollState))
      = (fun r => (r.1, st.put t.serial r.2)) <$> ownGate (st.own t.serial) := by
  rw [cooldownGate, ownGate]
  have hskip : (st.own t.serial).skipUntil = st.skipUntil t.serial := rfl
  rw [hskip]
  cases st.skipUntil t.serial with
  | none => simp
  | some skipUntil =>
    simp only [map_bind]
    refine congrArg _ (funext fun now => ?_)
    split
    · simp
    · simp [PollState.put, PollState.own]

theorem targetCompleted_eq (sessionStart : Int) (t : Target) (st : PollState) (own : OwnState) :
    (targetCompleted cfg sessionStart t (st.put t.serial own) : TaskM σ PollState)
      = st.put t.serial <$> ownCompleted cfg.mqtt.publishValue sessionStart t own := by
  simp [targetCompleted, ownCompleted, publishValue_eq, PollState.put]

theorem targetFailed_eq (t : Target) (st : PollState) (own : OwnState) :
    (targetFailed cfg t (st.put t.serial own) : TaskM σ PollState)
      = st.put t.serial <$> ownFailed cfg.mqtt.publishValue t own := by
  simp only [targetFailed, ownFailed, publishValue_eq, map_bind]
  have hcount : (st.put t.serial own).consecutiveFailures t.serial = own.failures := by
    simp [PollState.put]
  rw [hcount]
  have hcf : (if own.failures.getD 0 = 0xFFFFFFFF then own.failures.getD 0
      else own.failures.getD 0 + 1) = own.countFailure := rfl
  rw [hcf]
  refine congrArg _ (funext fun _ => ?_)
  split
  · simp [PollState.put]
  · simp [PollState.put]

/-- **The turn of the loop** reads and writes the target's own entries. -/
theorem turn_eq (sessionStart : Int) (t : Target) (st : PollState) :
    (turn cfg sessionStart t st : TaskM σ (Option PollState))
      = Option.map (st.put t.serial)
          <$> ownTurn cfg.mqtt.publishValue sessionStart t (st.own t.serial) := by
  simp only [turn, ownTurn, cooldownGate_eq, map_eq_pure_bind, bind_assoc, pure_bind]
  refine congrArg _ (funext fun gate => ?_)
  obtain ⟨cooling, own⟩ := gate
  cases cooling with
  | true => rfl
  | false =>
    simp only [Bool.false_eq_true, if_false, sweep_eq, bind_assoc]
    refine congrArg _ (funext fun ending => ?_)
    cases ending with
    | fatal => rfl
    | completed => simp [targetCompleted_eq]
    | failed => simp [targetFailed_eq]

end

end Task

/-! ## A link that is watched -/

/-- What passes between a task and its link. -/
inductive LinkEvent where
  | query (susyId : UInt16) (serial : UInt32) (kind : QueryKind)
      (result : Except SessionError (List UInt8))
  | eventLog (susyId : UInt16) (serial start stop : UInt32)
      (result : Except SessionError (List UInt8))
  | closed
  | instant (reading : Nat)
  | utc (reading : Int)

/-- What of it comes from the link. -/
inductive LinkAnswer where
  | reply (result : Except SessionError (List UInt8))
  | closed
  | instant (reading : Nat)
  | utc (reading : Int)

namespace LinkEvent

def answer : LinkEvent → LinkAnswer
  | query _ _ _ result => .reply result
  | eventLog _ _ _ _ result => .reply result
  | closed => .closed
  | instant reading => .instant reading
  | utc reading => .utc reading

/-- An error that is fatal to the session. -/
def fatal : LinkEvent → Bool
  | query _ _ _ (.error e) => e.isSessionFatal
  | _ => false

end LinkEvent

/-- A link with a log. -/
structure Watched (σ : Type) where
  link : σ
  log : List LinkEvent

instance {σ : Type} [Link σ] : Link (Watched σ) where
  queryForDevice w susyId serial kind :=
    let (result, link) := Link.queryForDevice w.link susyId serial kind
    (result, ⟨link, w.log ++ [.query susyId serial kind result]⟩)
  queryEventLogForDevice w susyId serial start stop :=
    let (result, link) := Link.queryEventLogForDevice w.link susyId serial start stop
    (result, ⟨link, w.log ++ [.eventLog susyId serial start stop result]⟩)
  gracefulClose w := ⟨Link.gracefulClose w.link, w.log ++ [.closed]⟩
  instantNow w :=
    let (reading, link) := Link.instantNow w.link
    (reading, ⟨link, w.log ++ [.instant reading]⟩)
  utcNow w :=
    let (reading, link) := Link.utcNow w.link
    (reading, ⟨link, w.log ++ [.utc reading]⟩)

/-- A task against a watched link shows what passed the link, and what was published. -/
def taskWindow (σ : Type) : Window (Task (Watched σ)) LinkEvent Message where
  events w := w.link.log
  output w := w.outbox

/-- Two tasks that get the same answers do the same. -/
abbrev TaskAlike {σ τ α : Type} (x : TaskM (Watched σ) α) (y : TaskM (Watched τ) α) : Prop :=
  Alike LinkEvent.answer (taskWindow σ) (taskWindow τ) x y

namespace Task

variable {σ τ : Type}

theorem alike_send (ms : List Message) :
    TaskAlike (send ms : TaskM (Watched σ) Unit) (send ms : TaskM (Watched τ) Unit) where
  grows w := ⟨[], ms, (List.append_nil _).symm, rfl⟩
  grows' w := ⟨[], ms, (List.append_nil _).symm, rfl⟩
  same {w v} _ _ _ _ _ _ hw hv _ := by
    have hsent : (taskWindow σ).Adds w (final ((send ms).run w)) [] ms :=
      ⟨(List.append_nil _).symm, rfl⟩
    have hsent' : (taskWindow τ).Adds v (final ((send ms).run v)) [] ms :=
      ⟨(List.append_nil _).symm, rfl⟩
    obtain ⟨rfl, rfl⟩ := hsent.unique hw
    obtain ⟨rfl, rfl⟩ := hsent'.unique hv
    exact ⟨rfl, rfl, rfl⟩

/-- One question with its answer, as an event. -/
theorem alike_ask {α : Type} {f : Watched σ → α × Watched σ} {g : Watched τ → α × Watched τ}
    (event : α → LinkEvent) (hf : ∀ w, (f w).2.log = w.log ++ [event (f w).1])
    (hg : ∀ w, (g w).2.log = w.log ++ [event (g w).1])
    (hinj : ∀ a b, (event a).answer = (event b).answer → a = b) :
    TaskAlike (ask f : TaskM (Watched σ) α) (ask g : TaskM (Watched τ) α) where
  grows w := ⟨[event (f w.link).1], [], hf w.link, (List.append_nil _).symm⟩
  grows' w := ⟨[event (g w.link).1], [], hg w.link, (List.append_nil _).symm⟩
  same {w v} _ _ _ _ _ _ hw hv hanswers := by
    have hasked : (taskWindow σ).Adds w (final ((ask f).run w)) [event (f w.link).1] [] :=
      ⟨hf w.link, (List.append_nil _).symm⟩
    have hasked' : (taskWindow τ).Adds v (final ((ask g).run v)) [event (g v.link).1] [] :=
      ⟨hg v.link, (List.append_nil _).symm⟩
    obtain ⟨rfl, rfl⟩ := hasked.unique hw
    obtain ⟨rfl, rfl⟩ := hasked'.unique hv
    have hsame := hinj _ _ (List.cons.inj hanswers).1
    exact ⟨by rw [hsame], rfl, congrArg Except.ok hsame⟩

variable [Link σ] [Link τ]

theorem alike_queryForDevice (t : Target) (kind : QueryKind) :
    TaskAlike (queryForDevice t kind : TaskM (Watched σ) _)
      (queryForDevice t kind : TaskM (Watched τ) _) :=
  alike_ask (.query t.susyId t.serial kind) (fun _ => rfl) (fun _ => rfl)
    fun _ _ h => LinkAnswer.reply.inj h

theorem alike_utcNow : TaskAlike (ask Link.utcNow : TaskM (Watched σ) Int)
    (ask Link.utcNow : TaskM (Watched τ) Int) :=
  alike_ask .utc (fun _ => rfl) (fun _ => rfl) fun _ _ h => LinkAnswer.utc.inj h

theorem alike_instantNow : TaskAlike (ask Link.instantNow : TaskM (Watched σ) Nat)
    (ask Link.instantNow : TaskM (Watched τ) Nat) :=
  alike_ask .instant (fun _ => rfl) (fun _ => rfl) fun _ _ h => LinkAnswer.instant.inj h

variable (say : Publisher)

omit [Link σ] [Link τ] in
theorem alike_sayValue (identity : InverterIdentity) (sensorKey : String) (value : Reading) :
    TaskAlike (sayValue say identity sensorKey value : TaskM (Watched σ) Unit)
      (sayValue say identity sensorKey value : TaskM (Watched τ) Unit) := by
  unfold sayValue
  cases say identity sensorKey value with
  | ok m => exact alike_send [m]
  | error panic => exact alike_throw panic

omit [Link σ] [Link τ] in
theorem alike_sayReadings (identity : InverterIdentity)
    (readings : List (String × Option Reading)) :
    TaskAlike (sayReadings say identity readings : TaskM (Watched σ) Unit)
      (sayReadings say identity readings : TaskM (Watched τ) Unit) := by
  induction readings with
  | nil => exact alike_pure ()
  | cons r rest ih =>
    obtain ⟨sensorKey, value⟩ := r
    cases value with
    | none => exact ih
    | some value => exact (alike_sayValue say identity sensorKey value).bind fun _ => ih

theorem alike_ownSweep (t : Target) (kinds : List QueryKind) :
    TaskAlike (ownSweep say t kinds : TaskM (Watched σ) SweepEnd)
      (ownSweep say t kinds : TaskM (Watched τ) SweepEnd) := by
  induction kinds with
  | nil => exact alike_pure _
  | cons kind kinds ih =>
    refine (alike_queryForDevice t kind).bind fun result => ?_
    cases result with
    | ok body => exact (alike_sayReadings say t.identity _).bind fun _ => ih
    | error e => exact (alike_sayValue say t.identity _ _).bind fun _ => alike_pure _

theorem alike_ownCompleted (sessionStart : Int) (t : Target) (own : OwnState) :
    TaskAlike (ownCompleted say sessionStart t own : TaskM (Watched σ) OwnState)
      (ownCompleted say sessionStart t own : TaskM (Watched τ) OwnState) := by
  refine alike_utcNow.bind fun _ => ?_
  refine (alike_sayValue say t.identity _ _).bind fun _ => ?_
  refine (alike_sayValue say t.identity _ _).bind fun _ => ?_
  refine (alike_sayValue say t.identity _ _).bind fun _ => ?_
  exact (alike_sayValue say t.identity _ _).bind fun _ => alike_pure _

theorem alike_ownFailed (t : Target) (own : OwnState) :
    TaskAlike (ownFailed say t own : TaskM (Watched σ) OwnState)
      (ownFailed say t own : TaskM (Watched τ) OwnState) := by
  refine (alike_sayValue say t.identity _ _).bind fun _ => ?_
  split
  · exact alike_instantNow.bind fun _ => alike_pure _
  · exact alike_pure _

theorem alike_ownGate (own : OwnState) :
    TaskAlike (ownGate own : TaskM (Watched σ) _) (ownGate own : TaskM (Watched τ) _) := by
  unfold ownGate
  split
  · exact alike_pure _
  · refine alike_instantNow.bind fun now => ?_
    split
    · exact alike_pure _
    · exact alike_pure _

/-- **A turn** depends on its target's entries, on the replies it gets and on the clock it reads. -/
theorem alike_ownTurn (sessionStart : Int) (t : Target) (own : OwnState) :
    TaskAlike (ownTurn say sessionStart t own : TaskM (Watched σ) (Option OwnState))
      (ownTurn say sessionStart t own : TaskM (Watched τ) (Option OwnState)) := by
  refine (alike_ownGate own).bind fun gate => ?_
  obtain ⟨cooling, own⟩ := gate
  cases cooling with
  | true => exact alike_pure _
  | false =>
    refine (alike_ownSweep say t perTickQueries).bind fun ending => ?_
    cases ending with
    | fatal => exact alike_pure _
    | completed => exact (alike_ownCompleted say sessionStart t own).bind fun _ => alike_pure _
    | failed => exact (alike_ownFailed say t own).bind fun _ => alike_pure _

end Task

/-! ### What a turn keeps -/

namespace Task

variable {σ : Type} [Link σ]

/-- A preorder that is kept by every question a turn asks, and by everything it publishes. -/
structure TurnKeeps (say : Publisher) (R : Task σ → Task σ → Prop) : Prop where
  refl : ∀ w, R w w
  trans : ∀ {w w' w''}, R w w' → R w' w'' → R w w''
  query : ∀ t kind, Keeps R (queryForDevice t kind)
  instant : Keeps R (ask Link.instantNow)
  utc : Keeps R (ask Link.utcNow)
  publish : ∀ identity sensorKey value, Keeps R (sayValue say identity sensorKey value)

namespace TurnKeeps

variable {say : Publisher} {R : Task σ → Task σ → Prop} (h : TurnKeeps say R)
include h

theorem pure {α : Type} (a : α) : Keeps R (Pure.pure a : TaskM σ α) := keeps_pure h.refl a

theorem bind {α β : Type} {x : TaskM σ α} {f : α → TaskM σ β} (hx : Keeps R x)
    (hf : ∀ a, Keeps R (f a)) : Keeps R (x >>= f) := Keeps.bind (R := R) h.trans hx hf

theorem sayReadings (identity : InverterIdentity) (readings : List (String × Option Reading)) :
    Keeps R (sayReadings say identity readings) := by
  induction readings with
  | nil => exact h.pure ()
  | cons r rest ih =>
    obtain ⟨sensorKey, value⟩ := r
    cases value with
    | none => exact ih
    | some value => exact h.bind (h.publish identity sensorKey value) fun _ => ih

theorem ownSweep (t : Target) (kinds : List QueryKind) : Keeps R (ownSweep say t kinds) := by
  induction kinds with
  | nil => exact h.pure _
  | cons kind kinds ih =>
    refine h.bind (h.query t kind) fun result => ?_
    cases result with
    | ok body => exact h.bind (h.sayReadings t.identity _) fun _ => ih
    | error e => exact h.bind (h.publish t.identity _ _) fun _ => h.pure _

theorem ownGate (own : OwnState) : Keeps R (ownGate own) := by
  unfold Task.ownGate
  split
  · exact h.pure _
  · refine h.bind h.instant fun now => ?_
    split
    · exact h.pure _
    · exact h.pure _

/-- **A turn** asks and publishes, and does nothing else to the state of the task. -/
theorem ownTurn (sessionStart : Int) (t : Target) (own : OwnState) :
    Keeps R (ownTurn say sessionStart t own) := by
  have hsay := fun sensorKey value => h.publish t.identity sensorKey value
  refine h.bind (h.ownGate own) fun gate => ?_
  obtain ⟨cooling, own⟩ := gate
  cases cooling with
  | true => exact h.pure _
  | false =>
    refine h.bind (h.ownSweep t perTickQueries) fun ending => ?_
    cases ending with
    | fatal => exact h.pure _
    | completed =>
      refine h.bind ?_ fun _ => h.pure _
      refine h.bind h.utc fun now => ?_
      refine h.bind (hsay _ _) fun _ => h.bind (hsay _ _) fun _ => ?_
      exact h.bind (hsay _ _) fun _ => h.bind (hsay _ _) fun _ => h.pure _
    | failed =>
      refine h.bind ?_ fun _ => h.pure _
      refine h.bind (hsay _ _) fun _ => ?_
      split
      · exact h.bind h.instant fun _ => h.pure _
      · exact h.pure _

end TurnKeeps

end Task

/-! ### Panics and broken sessions -/

namespace Task

variable {σ : Type}

/-- The step ends without a panic. -/
def Ends {α : Type} (x : TaskM σ α) : Prop := ∀ w, ∃ a w', x.run w = .ok a w'

theorem ends_pure {α : Type} (a : α) : Ends (pure a : TaskM σ α) := fun w => ⟨a, w, rfl⟩

theorem ends_ask {α : Type} (f : σ → α × σ) : Ends (ask f : TaskM σ α) := fun _ => ⟨_, _, rfl⟩

theorem Ends.bind {α β : Type} {x : TaskM σ α} {f : α → TaskM σ β} (hx : Ends x)
    (hf : ∀ a, Ends (f a)) : Ends (x >>= f) := by
  intro w
  obtain ⟨a, w₁, hrun⟩ := hx w
  rw [bind_of_ok hrun]
  exact hf a w₁

section

-- a publisher that knows every key
variable {say : Publisher} (htotal : ∀ identity key value, ∃ m, say identity key value = .ok m)
include htotal

theorem ends_sayValue (identity : InverterIdentity) (sensorKey : String) (value : Reading) :
    Ends (sayValue say identity sensorKey value : TaskM σ Unit) := by
  intro w
  obtain ⟨m, hm⟩ := htotal identity sensorKey value
  rw [sayValue, hm]
  exact ⟨(), _, rfl⟩

theorem ends_sayReadings (identity : InverterIdentity) (readings : List (String × Option Reading)) :
    Ends (sayReadings say identity readings : TaskM σ Unit) := by
  induction readings with
  | nil => exact ends_pure ()
  | cons r rest ih =>
    obtain ⟨sensorKey, value⟩ := r
    cases value with
    | none => exact ih
    | some value => exact (ends_sayValue htotal identity sensorKey value).bind fun _ => ih

variable [Link σ]

theorem ends_ownSweep (t : Target) (kinds : List QueryKind) :
    Ends (ownSweep say t kinds : TaskM σ SweepEnd) := by
  induction kinds with
  | nil => exact ends_pure _
  | cons kind kinds ih =>
    refine (ends_ask _).bind fun result => ?_
    cases result with
    | ok body => exact (ends_sayReadings htotal t.identity _).bind fun _ => ih
    | error e => exact (ends_sayValue htotal t.identity _ _).bind fun _ => ends_pure _

omit htotal in
theorem ends_ownGate (own : OwnState) : Ends (ownGate own : TaskM σ (Bool × OwnState)) := by
  unfold ownGate
  split
  · exact ends_pure _
  · refine (ends_ask _).bind fun now => ?_
    split
    · exact ends_pure _
    · exact ends_pure _

theorem ends_ownTurn (sessionStart : Int) (t : Target) (own : OwnState) :
    Ends (ownTurn say sessionStart t own : TaskM σ (Option OwnState)) := by
  have hsay := fun key value => ends_sayValue (σ := σ) htotal t.identity key value
  refine (ends_ownGate own).bind fun gate => ?_
  obtain ⟨cooling, own⟩ := gate
  cases cooling with
  | true => exact ends_pure _
  | false =>
    refine (ends_ownSweep htotal t perTickQueries).bind fun ending => ?_
    cases ending with
    | fatal => exact ends_pure _
    | completed =>
      refine Ends.bind ?_ fun _ => ends_pure _
      refine (ends_ask _).bind fun _ => ?_
      refine (hsay _ _).bind fun _ => (hsay _ _).bind fun _ => (hsay _ _).bind fun _ => ?_
      exact (hsay _ _).bind fun _ => ends_pure _
    | failed =>
      refine Ends.bind ?_ fun _ => ends_pure _
      refine (hsay _ _).bind fun _ => ?_
      split
      · exact (ends_ask _).bind fun _ => ends_pure _
      · exact ends_pure _

end

variable [Link σ] {say : Publisher}

omit [Link σ] in
theorem keeps_link_sayValue (say : Publisher) (identity : InverterIdentity) (sensorKey : String)
    (value : Reading) :
    Keeps (fun w w' => w'.link = w.link) (sayValue say identity sensorKey value : TaskM σ Unit) := by
  intro w
  unfold sayValue
  cases say identity sensorKey value <;> rfl

/-- A sweep that is cut short has a fatal error in the log. -/
theorem fatal_of_ownSweep {t : Target} {kinds : List QueryKind} {w w' : Task (Watched σ)}
    (h : (ownSweep say t kinds).run w = .ok .fatal w') : ∃ ev ∈ w'.link.log, ev.fatal = true := by
  induction kinds generalizing w with
  | nil => nomatch h
  | cons kind kinds ih =>
    rw [ownSweep] at h
    obtain ⟨result, w₁, hquery, hrest⟩ := bind_eq_ok.mp h
    cases result with
    | ok body =>
      obtain ⟨_, w₂, -, hsweep⟩ := bind_eq_ok.mp hrest
      exact ih hsweep
    | error e =>
      obtain ⟨_, w₂, hsaid, hpure⟩ := bind_eq_ok.mp hrest
      obtain ⟨hending, rfl⟩ := EStateM.Result.ok.inj hpure
      have hlink : w₂.link = w₁.link := by
        have hkeeps := keeps_link_sayValue say t.identity "poll_status" (.text "error") w₁
        rw [hsaid] at hkeeps
        exact hkeeps
      have hlog : w₁.link.log = w.link.log ++ [.query t.susyId t.serial kind (.error e)] := by
        obtain ⟨hresult, rfl⟩ := EStateM.Result.ok.inj hquery
        rw [← hresult]
        rfl
      refine ⟨.query t.susyId t.serial kind (.error e), by rw [hlink, hlog]; simp, ?_⟩
      by_contra hfatal
      rw [if_neg (show ¬ e.isSessionFatal = true from hfatal)] at hending
      nomatch hending

/-- **A broken session** has a fatal error in the log. -/
theorem fatal_of_ownTurn {sessionStart : Int} {t : Target} {own : OwnState} {w w' : Task (Watched σ)}
    (h : (ownTurn say sessionStart t own).run w = .ok none w') :
    ∃ ev ∈ w'.link.log, ev.fatal = true := by
  rw [ownTurn] at h
  obtain ⟨⟨cooling, own'⟩, w₁, -, hrest⟩ := bind_eq_ok.mp h
  cases cooling with
  | true => nomatch hrest
  | false =>
    obtain ⟨ending, w₂, hsweep, hend⟩ := bind_eq_ok.mp hrest
    cases ending with
    | fatal =>
      obtain ⟨-, rfl⟩ := EStateM.Result.ok.inj hend
      exact fatal_of_ownSweep hsweep
    | completed =>
      obtain ⟨_, _, -, hpure⟩ := bind_eq_ok.mp hend
      nomatch hpure
    | failed =>
      obtain ⟨_, _, -, hpure⟩ := bind_eq_ok.mp hend
      nomatch hpure

end Task

end HassSma
