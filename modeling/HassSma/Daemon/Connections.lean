/-
  The task of one inverter over its connections (`run_inverter` in `daemon/src/main.rs`).

  An attempt to connect fails, or gives a transport; then the handshake is run over it, and its outcome
  says what the round is: the init reply of a handshake that succeeds gives the targets, and the poll
  loop goes on with the session as the handshake leaves it (`ConnectAttempt.round`).

  1. **Links** — sessions over transports in step are links in step (`liveLinks_inStep`).
  2. **Rounds** — so an attempt over one transport is an attempt over the other (`round_inStep`).
  3. **Sockets** — two sockets that bring in the same stream cut in different places are transports in
     step (`sockets_inStep`).

  Together: from the bytes of `recv(2)` to the topics of the broker, nothing depends on where the stream
  is cut (`daemon_ignores_cuts`).
-/
import HassSma.Bluez.Cutting
import HassSma.Client.InStep
import HassSma.Daemon.Availability
import HassSma.Daemon.InStep

namespace HassSma

open Fallible History

/-! ## The program -/

/-- A connect that has succeeded: the transport, the clocks, and how long the session lives on it. -/
structure Dial (T : Type) where
  transport : T
  logonTime : UInt32
  instants : Nat → Nat
  wallClock : Nat → Int
  ticks : Nat
  yieldedAt : Nat

/-- One iteration of the loop, from the connect on. -/
inductive ConnectAttempt (T : Type) where
  | failed (error : String) (now later : Nat)
  | connected (dial : Dial T)

section

variable {T : Type} [Transport T] (client : SessionConfig) (appSerial : UInt32)

/-- The handshake over a new transport. -/
def Dial.handshake (d : Dial T) : EStateM.Result SessionError (Session T) Unit :=
  (Session.handshakeAndLogon d.logonTime).run (Session.newWithAppSerial d.transport client appSerial)

/-- What the attempt is to the loop. -/
def ConnectAttempt.round : ConnectAttempt T → Round (LiveLink T)
  | .failed error now later => .connectFailed error now later
  | .connected d =>
    match d.handshake client appSerial with
    | .error _ _ => .handshakeFailed
    | .ok _ session =>
      .session session.inverterSusyId session.inverterSerial ⟨session, d.instants, d.wallClock, 0⟩
        d.ticks d.yieldedAt

/-- The rounds of a task over its connections. -/
def runConnections (cfg : RunCfg) (attempts : List (ConnectAttempt T)) : List (RoundEntry (LiveLink T)) :=
  runInverter cfg (attempts.map (ConnectAttempt.round client appSerial))

end

/-! ## Links in step -/

section

variable {T U : Type} {timeoutMs : UInt64} {L O : T → U → Prop}

/-- Sessions in step, with the same clocks. -/
structure LiveLinksInStep (timeoutMs : UInt64) (L O : T → U → Prop) (l : LiveLink T) (m : LiveLink U) :
    Prop where
  session : Session.SessionsInStep timeoutMs L O l.session m.session
  instants : l.instants = m.instants
  wallClock : l.wallClock = m.wallClock
  readings : l.readings = m.readings

variable [Transport T] [Transport U] (hstep : TransportsInStep timeoutMs L O)
include hstep

/-- **Sessions in step are links in step.** -/
theorem liveLinks_inStep : LinksInStep (fun _ => True) (LiveLinksInStep timeoutMs L O) where
  query {l m} h susyId serial kind _ := by
    obtain ⟨hvalue, hsession⟩ := Session.lockstep_queryForDevice hstep susyId serial kind _ _ h.session
    exact ⟨hvalue, { h with session := hsession }⟩
  eventLog {l m} h susyId serial start stop _ := by
    obtain ⟨hvalue, hsession⟩ :=
      Session.lockstep_queryEventLogForDevice hstep susyId serial start stop _ _ h.session
    exact ⟨hvalue, { h with session := hsession }⟩
  close {l m} h := { h with session := (Session.lockstep_gracefulClose hstep _ _ h.session).2 }
  instant {l m} h := by
    refine ⟨?_, { h with readings := congrArg (· + 1) h.readings }⟩
    show l.instants l.readings = m.instants m.readings
    rw [h.instants, h.readings]
  utc {l m} h := by
    refine ⟨?_, { h with readings := congrArg (· + 1) h.readings }⟩
    show l.wallClock l.readings = m.wallClock m.readings
    rw [h.wallClock, h.readings]

/-- The loop behind a session over the one link or the other. -/
theorem session_inStep {l : LiveLink T} {m : LiveLink U} (h : LiveLinksInStep timeoutMs L O l m)
    (cfg : RunCfg) (initSusy : UInt16) (initSerial : UInt32) (ticks yieldedAt : Nat) (s : RunState) :
    s.session cfg initSusy initSerial l ticks yieldedAt
      = s.session cfg initSusy initSerial m ticks yieldedAt := by
  have hannounced : s.loggedIn cfg initSusy initSerial l = s.loggedIn cfg initSusy initSerial m := by
    have hsame := Task.lockstep_announceTargets (L := fun _ _ => True) cfg.toInverterCfg
      (s.targets cfg initSusy initSerial) ⟨l, s.outbox⟩ ⟨m, s.outbox⟩ ⟨trivial, rfl⟩
    unfold RunState.loggedIn
    simp only [hsame.2.outbox]
  obtain ⟨hvalue, hfinal⟩ := Task.lockstep_pollPhase (liveLinks_inStep hstep) cfg.toInverterCfg
    (s.targets cfg initSusy initSerial) ticks ⟨l, (s.loggedIn cfg initSusy initSerial m).outbox⟩
    ⟨m, (s.loggedIn cfg initSusy initSerial m).outbox⟩ ⟨h, rfl⟩
  unfold RunState.session
  simp only [hannounced, hvalue, hfinal.outbox]

/-- What two attempts have in common that cannot be told apart: the transports are in step. -/
inductive AttemptsInStep (L : T → U → Prop) : ConnectAttempt T → ConnectAttempt U → Prop where
  | failed (error : String) (now later : Nat) :
    AttemptsInStep L (.failed error now later) (.failed error now later)
  | connected {t : T} {u : U} (h : L t u) (logonTime : UInt32) (instants : Nat → Nat)
    (wallClock : Nat → Int) (ticks yieldedAt : Nat) :
    AttemptsInStep L (.connected ⟨t, logonTime, instants, wallClock, ticks, yieldedAt⟩)
      (.connected ⟨u, logonTime, instants, wallClock, ticks, yieldedAt⟩)

/-- **One iteration** does the same over transports in step. -/
theorem round_inStep {client : SessionConfig} (htimeout : client.timeoutMs = timeoutMs)
    (appSerial : UInt32) (cfg : RunCfg) {a : ConnectAttempt T} {b : ConnectAttempt U}
    (h : AttemptsInStep L a b) (s : RunState) :
    s.round cfg (a.round client appSerial) = s.round cfg (b.round client appSerial) := by
  cases hended : s.ended with
  | true => rw [RunState.round_ended hended, RunState.round_ended hended]
  | false =>
    cases h with
    | failed error now later => rfl
    | @connected t u htu logonTime instants wallClock ticks yieldedAt =>
      have hnew : Session.SessionsInStep timeoutMs L O (Session.newWithAppSerial t client appSerial)
          (Session.newWithAppSerial u client appSerial) :=
        ⟨⟨htu, htimeout, rfl, rfl, rfl, rfl, rfl, rfl⟩, nofun⟩
      obtain ⟨hvalue, hfinal⟩ := Session.lockstep_handshakeAndLogon hstep logonTime _ _ hnew
      unfold ConnectAttempt.round Dial.handshake
      simp only
      cases hrun : (Session.handshakeAndLogon logonTime).run
          (Session.newWithAppSerial t client appSerial) with
      | error e session =>
        cases hrun' : (Session.handshakeAndLogon logonTime).run
            (Session.newWithAppSerial u client appSerial) with
        | error e' session' => rfl
        | ok _ session' =>
          rw [hrun, hrun'] at hvalue
          nomatch hvalue
      | ok _ session =>
        cases hrun' : (Session.handshakeAndLogon logonTime).run
            (Session.newWithAppSerial u client appSerial) with
        | error e' session' =>
          rw [hrun, hrun'] at hvalue
          nomatch hvalue
        | ok _ session' =>
          rw [hrun, hrun'] at hfinal
          have hsession : Session.SessionsInStep timeoutMs L O session session' := hfinal
          have hlinks : LiveLinksInStep timeoutMs L O ⟨session, instants, wallClock, 0⟩
              ⟨session', instants, wallClock, 0⟩ := ⟨hsession, rfl, rfl, rfl⟩
          simp only [RunState.round, hended, hsession.alike.inverterSusyId,
            hsession.alike.inverterSerial, session_inStep hstep hlinks]

/-- **A run** over transports in step: the same waits, and the same state and messages at any time. -/
theorem runConnections_inStep {client : SessionConfig} (htimeout : client.timeoutMs = timeoutMs)
    (appSerial : UInt32) (cfg : RunCfg) {as : List (ConnectAttempt T)} {bs : List (ConnectAttempt U)}
    (h : List.Forall₂ (AttemptsInStep L) as bs) :
    (runConnections client appSerial cfg as).map (fun e => (e.result, e.after))
      = (runConnections client appSerial cfg bs).map fun e => (e.result, e.after) := by
  have hrounds : List.Forall₂ (fun r r' => ∀ s : RunState, s.round cfg r = s.round cfg r')
      (as.map (ConnectAttempt.round client appSerial)) (bs.map (ConnectAttempt.round client appSerial)) := by
    rw [List.forall₂_map_left_iff, List.forall₂_map_right_iff]
    exact h.imp fun a b hab s => round_inStep hstep htimeout appSerial cfg hab s
  exact history_forall₂ (fun _ _ hsame s => hsame s) hrounds cfg.start

end

/-! ## Sockets -/

namespace RfcommTransport

/-- Open over the same stream, or both closed. -/
def SameSocket (timeoutMs : UInt64) (t u : RfcommTransport) : Prop :=
  SameStream timeoutMs t u ∨ t.fd = none ∧ u.fd = none

/-- **Sockets over the same stream** are in step. -/
theorem sockets_inStep (timeoutMs : UInt64) :
    TransportsInStep timeoutMs (SameSocket timeoutMs) (SameStream timeoutMs) where
  send h data := h.send data
  recv h := h.recv
  sendFirst {t u} h data := by
    rcases h with h | ⟨ht, hu⟩
    · obtain ⟨hresult, hopen⟩ := h.send data
      exact ⟨hresult, .inl hopen, fun _ _ => hopen⟩
    · have hclosed : ∀ t : RfcommTransport, t.fd = none →
          Transport.sendFrame t data = (.error .closed, t) := by
        intro t ht
        show sendFrame t data = _
        unfold sendFrame
        rw [ht]
      rw [hclosed t ht, hclosed u hu]
      exact ⟨rfl, .inr ⟨ht, hu⟩, nofun⟩
  close _ := ⟨rfl, .inr ⟨rfl, rfl⟩⟩
  ofOpen h := .inl h

/-- The same socket but for the cuts: the reader, and the bytes and errors to come. -/
structure SameButCuts (timeoutMs : UInt64) (t u : RfcommTransport) : Prop where
  isOpen : t.fd ≠ none ∧ u.fd ≠ none
  reader : t.reader = u.reader
  recvs : Recut t.recvs u.recvs
  sends : t.sends = u.sends
  punctual : Punctual timeoutMs t ∧ Punctual timeoutMs u

theorem SameButCuts.sameStream {timeoutMs : UInt64} {t u : RfcommTransport}
    (h : SameButCuts timeoutMs t u) : SameStream timeoutMs t u := by
  refine ⟨h.isOpen, h.sends, ?_, h.punctual⟩
  rw [coming, coming, h.reader]
  exact coming_recut h.recvs u.reader

end RfcommTransport

open RfcommTransport

/-- **Nothing depends on the cuts.**  Two runs of a task whose sockets bring in the same bytes, with the
    same errors in the same places, cut in different places by `recv(2)` and none of them late: round
    by round they wait for the same times and hand over the same messages. -/
theorem daemon_ignores_cuts (cfg : RunCfg) (client : SessionConfig) (appSerial : UInt32)
    {as bs : List (ConnectAttempt RfcommTransport)}
    (h : List.Forall₂ (AttemptsInStep (SameButCuts client.timeoutMs)) as bs) :
    (runConnections client appSerial cfg as).map (fun e => (e.result, e.after))
      = (runConnections client appSerial cfg bs).map fun e => (e.result, e.after) := by
  refine runConnections_inStep (sockets_inStep client.timeoutMs) rfl appSerial cfg (h.imp ?_)
  intro a b hab
  cases hab with
  | failed error now later => exact .failed error now later
  | connected htu => exact .connected (.inl htu.sameStream) ..

/-- A socket with these results to come, over a clock that stands still. -/
def sampleDial (recvs : List RecvResult) : ConnectAttempt RfcommTransport :=
  .connected ⟨⟨some 3, .new, recvs, [.ok 24, .ok 31], fun _ => 0, 0⟩, 1776600000, fun n => n, fun n => n, 2, 0⟩

/-- The inverter is asleep, and then two messages come in, the first of them in two parts or not. -/
theorem daemon_ignores_cuts_two_parts :
    (runConnections ⟨.fill 1, .fill 2, "0000", .user, 15000⟩ 900000000 repeaterCfg
        [.failed "Host is down (os error 112)" 0 0,
          sampleDial [.bytes ((streamOf sampleMsgs).take 20 ++ (streamOf sampleMsgs).drop 20)]]).map
        (fun e => (e.result, e.after))
      = (runConnections ⟨.fill 1, .fill 2, "0000", .user, 15000⟩ 900000000 repeaterCfg
        [.failed "Host is down (os error 112)" 0 0,
          sampleDial [.bytes ((streamOf sampleMsgs).take 20),
            .bytes ((streamOf sampleMsgs).drop 20)]]).map fun e => (e.result, e.after) := by
  refine daemon_ignores_cuts repeaterCfg ⟨.fill 1, .fill 2, "0000", .user, 15000⟩ 900000000
    (.cons (.failed _ 0 0) (.cons (.connected ⟨⟨nofun, nofun⟩, rfl, ?_, rfl, ?_, ?_⟩ ..) .nil))
  · exact .rel _ _ (.here [] (by decide) (by decide))
  · exact punctual_of_clock fun _ _ => Nat.zero_le _
  · exact punctual_of_clock fun _ _ => Nat.zero_le _

end HassSma
