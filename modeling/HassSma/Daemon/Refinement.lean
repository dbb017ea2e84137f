/-
  The daemon over the protocol, and the daemon over the inverters.

  Between the poll loop and an inverter lie a session with its packet ids, the frames, the stuffing and
  the checksums, and the replies of other inverters on the same link.  `Inverters` is the link without
  all that: it asks the devices directly and remembers only the number of the last request.

  1. **The session is in step with the inverters** — `liveLink_inStep`: from
     `Session.Attached.call_served`.
  2. **Refinement** — `daemon_refines`: over any run of sessions the daemon publishes what it would
     publish if it asked the inverters, and stops where it would stop.
-/
import HassSma.Client.Served
import HassSma.Daemon.InStep

namespace HassSma

open Fallible

/-! ## The inverters, asked directly -/

/-- A link that asks the devices of a piconet: the number of the last request, whether the session is
    open, and the clocks. -/
structure Inverters where
  piconet : Piconet
  pcktid : UInt16
  loggedIn : Bool
  instants : Nat → Nat
  wallClock : Nat → Int
  readings : Nat

namespace Inverters

/-- One request, by the next number; nothing is asked of a closed session. -/
def ask (o : Inverters) (r : Session.Request) (notLoggedIn : String) :
    Except SessionError (List UInt8) × Inverters :=
  if o.loggedIn then
    (o.piconet.answerTo (Session.succPktId o.pcktid) r,
      { o with pcktid := Session.succPktId o.pcktid })
  else (.error (.protocol notLoggedIn), o)

instance : Link Inverters where
  queryForDevice o susyId serial kind :=
    o.ask (.queryForDevice susyId serial kind) "query-not-logged-in"
  queryEventLogForDevice o susyId serial startUnix endUnix :=
    o.ask (.queryEventLogForDevice susyId serial startUnix endUnix) "event-log-not-logged-in"
  gracefulClose o := { o with loggedIn := false }
  instantNow o := (o.instants o.readings, { o with readings := o.readings + 1 })
  utcNow o := (o.wallClock o.readings, { o with readings := o.readings + 1 })

end Inverters

/-- A session over a piconet that stands for the inverters: attached to them while it is open, and the
    clocks are the same. -/
structure StandsFor (l : LiveLink Piconet) (o : Inverters) : Prop where
  attached : o.loggedIn = true → Session.Attached o.piconet l.session ∧ l.session.pcktid = o.pcktid
  closed : o.loggedIn = false → l.session.state ≠ .loggedIn
  instants : l.instants = o.instants
  wallClock : l.wallClock = o.wallClock
  readings : l.readings = o.readings

/-- A session that is closed gracefully is not logged in, whatever it was. -/
theorem Session.state_gracefulClose {T : Type} [Transport T] (s : Session T) :
    (final (Session.gracefulClose.run s)).state = .disconnected := by
  have hclose : ∀ s : Session T, (final (Session.close.run s)).state = .disconnected := by
    intro s
    rw [Session.final_close]
  rw [Session.gracefulClose, bind_of_ok (EStateM.run_get s)]
  split
  · rw [bind_of_ok (Session.run_nextPcktid s), bind_of_ok (run_attempt _ _)]
    exact hclose _
  · exact hclose s

/-- An event-log query on a session that is not logged in does nothing. -/
theorem Session.run_queryEventLog_not_logged_in {T : Type} [Transport T] {s : Session T}
    (h : s.state ≠ .loggedIn) (susyId : UInt16) (serial startUnix endUnix : UInt32) :
    (Session.queryEventLogForDevice susyId serial startUnix endUnix).run s
      = .error (.protocol "event-log-not-logged-in") s := by
  rw [Session.queryEventLogForDevice, bind_of_ok (EStateM.run_get s)]
  exact bind_of_error (Session.run_ensure_not h _ s) _

/-- **A request through the session** is a request to the inverters. -/
theorem StandsFor.request {l : LiveLink Piconet} {o : Inverters} (h : StandsFor l o)
    {r : Session.Request} (hr : r.Targeted) {notLoggedIn : String}
    (hclosed : l.session.state ≠ .loggedIn →
      r.call.run l.session = .error (.protocol notLoggedIn) l.session) :
    value (r.call.run l.session) = (o.ask r notLoggedIn).1 ∧
      StandsFor { l with session := final (r.call.run l.session) } (o.ask r notLoggedIn).2 := by
  rw [Inverters.ask]
  split
  · rename_i hopen
    obtain ⟨hattached, hid⟩ := h.attached hopen
    obtain ⟨q, hdevices, hempty, hrun⟩ := hattached.call_served hr
    rw [hrun, value_ended, final_ended, hid]
    refine ⟨rfl, ?_⟩
    refine ⟨fun _ => ⟨hattached.emptied hdevices hempty, ?_⟩, fun hshut => ?_, h.instants, h.wallClock,
      h.readings⟩
    · show Session.succPktId l.session.pcktid = _
      rw [hid]
    · rw [show o.loggedIn = false from hshut] at hopen
      nomatch hopen
  · rename_i hshut
    have hshut' : o.loggedIn = false := by simpa using hshut
    rw [hclosed (h.closed hshut')]
    exact ⟨rfl, h⟩

/-- **The session is in step with the inverters.** -/
theorem liveLink_inStep : LinksInStep (· ≠ anySerial) StandsFor where
  query h susyId serial kind hplain :=
    h.request (r := .queryForDevice susyId serial kind) hplain fun hstate =>
      Session.run_queryForDevice_not_logged_in hstate susyId serial kind
  eventLog h susyId serial start stop hplain :=
    h.request (r := .queryEventLogForDevice susyId serial start stop) hplain fun hstate =>
      Session.run_queryEventLog_not_logged_in hstate susyId serial start stop
  close {l o} h := by
    refine ⟨nofun, fun _ hin => ?_, h.instants, h.wallClock, h.readings⟩
    have hstate := Session.state_gracefulClose l.session
    rw [show (final (Session.gracefulClose.run l.session)).state = .loggedIn from hin] at hstate
    nomatch hstate
  instant {l o} h := by
    refine ⟨?_, h.attached, h.closed, h.instants, h.wallClock, congrArg (· + 1) h.readings⟩
    show l.instants l.readings = o.instants o.readings
    rw [h.instants, h.readings]
  utc {l o} h := by
    refine ⟨?_, h.attached, h.closed, h.instants, h.wallClock, congrArg (· + 1) h.readings⟩
    show l.wallClock l.readings = o.wallClock o.readings
    rw [h.wallClock, h.readings]

/-! ## Refinement -/

/-- A target with a serial of its own. -/
def Target.Plain (t : Target) : Prop := t.serial ≠ anySerial

/-- One session of the daemon: a new connection to a piconet of up to eight devices, one of which lets
    the client in, the clocks behind the handshake, the targets and the ticks. -/
structure Connection where
  piconet : Piconet
  fresh : piconet.inbox = []
  small : piconet.devices.length ≤ 8
  admits : ∃ d ∈ piconet.devices, d.logonCode = 0
  cfg : SessionConfig
  appSerial : UInt32
  logonTime : UInt32
  instants : Nat → Nat
  wallClock : Nat → Int
  targets : List Target
  plain : ∀ t ∈ targets, t.Plain
  ticks : Nat

namespace Connection

variable (c : Connection)

def session : Session Piconet := Session.newWithAppSerial c.piconet c.cfg c.appSerial

/-- The session of the daemon over the protocol: the handshake is run, and the poll loop goes on from
    what it leaves. -/
def live : Life (LiveLink Piconet) :=
  ⟨⟨final ((Session.handshakeAndLogon c.logonTime).run c.session), c.instants, c.wallClock, 0⟩,
    c.targets, c.ticks⟩

/-- The same session over the inverters: three requests have been made. -/
def direct : Life Inverters :=
  ⟨⟨c.piconet, 3, true, c.instants, c.wallClock, 0⟩, c.targets, c.ticks⟩

/-- The handshake succeeds, and leaves a session that stands for the inverters. -/
theorem standsFor : StandsFor c.live.link c.direct.link := by
  obtain ⟨s', hok, hattached, hid⟩ := Session.handshake_admitted (s := c.session) c.fresh
    (show (0 : UInt16).toNat + 4 < 32768 by decide) c.small c.admits c.logonTime
  have hsession : c.live.link.session = s' := by
    show final ((Session.handshakeAndLogon c.logonTime).run c.session) = s'
    rw [hok, final_ok]
  refine ⟨fun _ => ?_, nofun, rfl, rfl, rfl⟩
  rw [hsession, hid]
  exact ⟨hattached, rfl⟩

end Connection

/-- **The daemon refines its purpose.**  Over any run of sessions, each with its own piconet, targets,
    clocks and ticks, the daemon over the whole protocol publishes exactly what it would publish if it
    asked the inverters directly, message by message, and ends in the same way. -/
theorem daemon_refines (cfg : InverterCfg) (connections : List Connection) (l : LiveLink Piconet)
    (o : Inverters) (outbox : List Message) :
    value ((runSessions cfg (connections.map Connection.live)).run ⟨l, outbox⟩)
        = value ((runSessions cfg (connections.map Connection.direct)).run ⟨o, outbox⟩) ∧
      (final ((runSessions cfg (connections.map Connection.live)).run ⟨l, outbox⟩)).outbox
        = (final ((runSessions cfg (connections.map Connection.direct)).run ⟨o, outbox⟩)).outbox := by
  -- a session starts on a new link, so only the outbox carries over
  have hrun : ∀ connections : List Connection,
      Lockstep (fun w v => w.outbox = v.outbox)
        (runSessions cfg (connections.map Connection.live) : TaskM (LiveLink Piconet) Unit)
        (runSessions cfg (connections.map Connection.direct) : TaskM Inverters Unit) := by
    intro connections
    induction connections with
    | nil => exact lockstep_pure ()
    | cons c connections ih =>
      have hlife : Lockstep (fun w v => w.outbox = v.outbox)
          (do
            modify fun w => { w with link := c.live.link }
            Task.sessionLife cfg c.live.targets c.live.ticks : TaskM (LiveLink Piconet) Unit)
          (do
            modify fun w => { w with link := c.direct.link }
            Task.sessionLife cfg c.direct.targets c.direct.ticks : TaskM Inverters Unit) := by
        intro w v h
        obtain ⟨hvalue, hfinal⟩ := Task.lockstep_sessionLife liveLink_inStep cfg c.plain c.ticks
          { w with link := c.live.link } { v with link := c.direct.link } ⟨c.standsFor, h⟩
        exact ⟨hvalue, hfinal.outbox⟩
      have hseq := hlife.bind fun _ => ih
      simp only [bind_assoc] at hseq
      exact hseq
  exact hrun connections ⟨l, outbox⟩ ⟨o, outbox⟩ rfl

/-- Such a connection: two inverters behind one repeater, polled once. -/
example : Connection where
  piconet := Session.samplePiconet
  fresh := rfl
  small := by decide
  admits := ⟨_, List.mem_cons_self, rfl⟩
  cfg := ⟨.fill 1, .fill 2, "0000", .user, 1000⟩
  appSerial := 900000000
  logonTime := 0
  instants := fun n => n
  wallClock := fun n => n
  targets := [Task.sampleTarget]
  plain := by simp [Target.Plain, Task.sampleTarget, anySerial]
  ticks := 1

end HassSma
