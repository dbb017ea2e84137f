/-
  The outer loop of one inverter task (`run_inverter` in `daemon/src/main.rs`): connect, log on, poll,
  and again.

  One iteration is a round.  What the world decides in it is in the round: whether the connect succeeds
  or how the error reads, the clock, the outcome of the handshake, and the link that the session runs
  on.  The loop keeps a streak of host-down failures, the post-yield grace, the backoff, and whether
  its devices have been marked offline (`RunState`).  The session of a round is that of the poll loop
  (`sessionLife_eq`), and it may panic, or still be running: then the task has no further round.

  What is published about availability, over all rounds, is in the list of messages (`availabilityOf`);
  a session adds to it nothing but its announcements (`keeps_pollPhase`).
-/
import HassSma.Daemon.PollLoop
import HassSma.Mqtt.Topics
import HassSma.Lib.History

namespace HassSma

open Fallible History

/-! ## The program -/

/-- What the outer loop reads of an inverter's config, besides what the poll loop does. -/
structure RunCfg extends InverterCfg where
  slot : String
  model : String
  firmware : String

/-- One second of the monotonic clock. -/
def second : Nat := 1000000000

def minBackoff : Nat := 2 * second
def maxTransientBackoff : Nat := 60 * second
def sleepBackoff : Nat := 600 * second
def postYieldGrace : Nat := 180 * second
def postYieldRetry : Nat := 15 * second

/-- The variables of the outer loop, and the messages handed to the MQTT client so far. -/
structure RunState where
  outbox : List Message
  identity : InverterIdentity
  backoff : Nat
  /-- Counts as a release build does, without an overflow check. -/
  hostDownStreak : UInt32
  publishedOffline : Bool
  postYieldDeadline : Option Nat
  announcedIdentities : List InverterIdentity
  /-- No further round: the task has panicked, or it is still in its last session. -/
  ended : Bool

/-- The loop before its first round. -/
def RunCfg.start (cfg : RunCfg) : RunState where
  outbox := []
  identity := ⟨cfg.slot, 0, cfg.model, cfg.firmware⟩
  backoff := minBackoff
  hostDownStreak := 0
  publishedOffline := false
  postYieldDeadline := none
  announcedIdentities := cfg.devices.map fun d => ⟨d.slot, d.appSerial, d.model, cfg.firmware⟩
  ended := false

/-- One iteration of the loop, as the world decides it. -/
inductive Round (σ : Type) where
  /-- The connect fails with this error text; the clock is read twice. -/
  | connectFailed (error : String) (now later : Nat)
  /-- The connect succeeds and the handshake fails. -/
  | handshakeFailed
  /-- The handshake succeeds with this init reply; the session lives for some ticks on the link. -/
  | session (initSusy : UInt16) (initSerial : UInt32) (link : σ) (ticks yieldedAt : Nat)

/-- `err_str.contains("Host is down") || err_str.contains("os error 112")` -/
def isHostDown (error : String) : Bool :=
  decide ("Host is down".toList <:+: error.toList ∨ "os error 112".toList <:+: error.toList)

namespace RunState

def inGrace (s : RunState) (now : Nat) : Bool :=
  match s.postYieldDeadline with
  | none => false
  | some deadline => decide (now < deadline)

/-- Who is marked offline when the inverter falls asleep. -/
def offlineIdentities (s : RunState) : List InverterIdentity :=
  if s.announcedIdentities = [] then [s.identity] else s.announcedIdentities

/-- The branch of a connect that fails; how long it waits, and the loop behind it. -/
def connectFailed (cfg : RunCfg) (error : String) (now later : Nat) (s : RunState) :
    Nat × RunState :=
  let inGrace := s.inGrace now
  let streak := if isHostDown error && !inGrace then s.hostDownStreak + 1 else s.hostDownStreak
  let asleep := isHostDown error && !inGrace && streak = 3 && !s.publishedOffline
  let outbox :=
    if asleep then s.outbox ++ s.offlineIdentities.map cfg.mqtt.publishOffline else s.outbox
  -- a deadline that has passed is forgotten
  let deadline := s.postYieldDeadline.filter fun deadline => later < deadline
  let wait :=
    if inGrace && isHostDown error then postYieldRetry
    else if streak ≥ 3 then sleepBackoff
    else s.backoff
  let backoff := if !inGrace && streak < 3 then min (s.backoff * 2) maxTransientBackoff else s.backoff
  (wait,
    { s with
      outbox := outbox
      hostDownStreak := streak
      publishedOffline := s.publishedOffline || asleep
      postYieldDeadline := deadline
      backoff := backoff })

/-- The loop behind a connect that succeeds. -/
def connected (s : RunState) : RunState :=
  { s with hostDownStreak := 0, postYieldDeadline := none, backoff := minBackoff }

def handshakeFailed (s : RunState) : RunState :=
  { s with backoff := min (s.backoff * 2) (60 * second) }

@[simp] theorem connected_outbox (s : RunState) : s.connected.outbox = s.outbox := rfl

@[simp] theorem handshakeFailed_outbox (s : RunState) : s.handshakeFailed.outbox = s.outbox := rfl

/-- The poll targets behind a handshake that succeeds. -/
def targets (cfg : RunCfg) (initSusy : UInt16) (initSerial : UInt32) (s : RunState) : List Target :=
  cfg.toInverterCfg.targets s.identity initSusy initSerial

/-- The loop behind a handshake that succeeds: the targets are announced and marked online. -/
def loggedIn {σ : Type} (cfg : RunCfg) (initSusy : UInt16) (initSerial : UInt32) (link : σ)
    (s : RunState) : RunState :=
  let targets := s.targets cfg initSusy initSerial
  { s with
    outbox :=
      (final ((Task.announceTargets cfg.toInverterCfg targets).run ⟨link, s.outbox⟩)).outbox
    identity := { s.identity with serial := initSerial }
    announcedIdentities :=
      if s.announcedIdentities = [] then targets.map Target.identity else s.announcedIdentities
    publishedOffline := false }

end RunState

namespace Task

variable {σ : Type} [Link σ]

/-- A session from the announcements on. -/
def pollPhase (cfg : InverterCfg) (targets : List Target) (ticks : Nat) : TaskM σ LoopEnd := do
  eventLogOneShot cfg targets
  let targets ← identityOneShots cfg targets
  let sessionStart ← ask Link.utcNow
  let loopEnd ← pollLoop cfg targets sessionStart ticks .new
  endSession loopEnd
  pure loopEnd

/-- A session life is its announcements and the poll phase. -/
theorem sessionLife_eq (cfg : InverterCfg) (targets : List Target) (ticks : Nat) :
    (sessionLife cfg targets ticks : TaskM σ Unit) = (do
      announceTargets cfg targets
      let _ ← pollPhase cfg targets ticks
      pure ()) := by
  simp only [sessionLife, oneShots, pollPhase, bind_assoc, pure_bind, bind_pure_unit]

end Task

namespace RunState

variable {σ : Type} [Link σ]

/-- The loop behind a session.  A yield gives the inverter time to come back on the air. -/
def session (cfg : RunCfg) (initSusy : UInt16) (initSerial : UInt32) (link : σ)
    (ticks yieldedAt : Nat) (s : RunState) : RunState :=
  let announced := s.loggedIn cfg initSusy initSerial link
  let result := (Task.pollPhase cfg.toInverterCfg (s.targets cfg initSusy initSerial) ticks).run
    ⟨link, announced.outbox⟩
  let behind := { announced with outbox := (final result).outbox }
  match value result with
  | .ok .yielded => { behind with postYieldDeadline := some (yieldedAt + postYieldGrace) }
  | .ok .aborted => behind
  | .ok .running => { behind with ended := true }
  | .error _ => { behind with ended := true }

/-- One round: the wait, if the connect fails, and the loop behind it. -/
def round (cfg : RunCfg) (r : Round σ) (s : RunState) : Option Nat × RunState :=
  if s.ended then (none, s)
  else
    match r with
    | .connectFailed error now later =>
      let (wait, s) := s.connectFailed cfg error now later
      (some wait, s)
    | .handshakeFailed => (none, s.connected.handshakeFailed)
    | .session initSusy initSerial link ticks yieldedAt =>
      (none, s.connected.session cfg initSusy initSerial link ticks yieldedAt)

variable {cfg : RunCfg} {s : RunState}

/-- A task that has ended stays as it is. -/
theorem round_ended (h : s.ended = true) (r : Round σ) : s.round cfg r = (none, s) := if_pos h

section

-- what one round does while the task runs
variable (h : s.ended = false)
include h

theorem round_connectFailed (error : String) (now later : Nat) :
    (s.round cfg (.connectFailed error now later : Round σ)).2
      = (s.connectFailed cfg error now later).2 := by
  simp [round, h]

theorem round_handshakeFailed :
    (s.round cfg (.handshakeFailed : Round σ)).2 = s.connected.handshakeFailed := by
  simp [round, h]

theorem round_session (initSusy : UInt16) (initSerial : UInt32) (link : σ) (ticks yieldedAt : Nat) :
    (s.round cfg (.session initSusy initSerial link ticks yieldedAt)).2
      = s.connected.session cfg initSusy initSerial link ticks yieldedAt := by
  simp [round, h]

end

end RunState

/-- A round in a history of one task. -/
abbrev RoundEntry (σ : Type) := Entry (Round σ) RunState (Option Nat)

/-- The rounds of a task, from its start on. -/
def runInverter {σ : Type} [Link σ] (cfg : RunCfg) (rounds : List (Round σ)) : List (RoundEntry σ) :=
  history (RunState.round cfg) rounds cfg.start

end HassSma
