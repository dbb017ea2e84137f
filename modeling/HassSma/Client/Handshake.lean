/-
  A handshake that succeeds (`handshake_and_logon` in `inverter-client/src/session.rs`).

  1. **The trace** — `handshakeAndLogon_eq_ok_iff`: a handshake returns `Ok` exactly when a
     `HandshakeTrace` leads from the session before to the session behind: hello in, echo out,
     topology in, init out and its reply in, logoff and logon out, logon accepted.
  2. **Whose identity is adopted** — the init reply is compared with the sender of the hello, not with
     the configured address, so the identity is that of the configured inverter exactly when the
     hello came from there (`identity_configured_iff`).
  3. **Who else may talk meanwhile** — frames of others between the topology and the init reply, within
     the bounds of the two receive loops, change nothing at all (`init_phase_noninterference`).
-/
import HassSma.Client.Lifecycle

namespace HassSma

open Bytes Fallible Polling

namespace Session

variable {T : Type} [Transport T]

/-! ## Steps that succeed -/

theorem sendFrame_eq_ok {data : List UInt8} {n : Nat} {s s' : Session T} :
    (sendFrame data).run s = .ok n s' ↔
      ∃ t, Transport.sendFrame s.transport data = (.ok n, t) ∧ s' = { s with transport := t } := by
  rw [run_sendFrame]
  rcases Transport.sendFrame s.transport data with ⟨e | m, t⟩
  · exact iff_of_false nofun fun ⟨_, h, _⟩ => nomatch h
  · constructor
    · intro h
      obtain ⟨rfl, rfl⟩ := EStateM.Result.ok.inj h
      exact ⟨t, rfl, rfl⟩
    · rintro ⟨t', h, rfl⟩
      obtain ⟨hn, rfl⟩ := Prod.mk.inj h
      rw [Except.ok.inj hn]

theorem recvFrame_eq_ok {phase : String} {raw : List UInt8} {s s' : Session T} :
    (recvFrame phase).run s = .ok raw s' ↔
      ∃ t, s.frames s.transport = (.ok raw, t) ∧ s' = { s with transport := t } := by
  rw [run_recvFrame]
  rcases s.frames s.transport with ⟨e | m, t⟩
  · exact iff_of_false nofun fun ⟨_, h, _⟩ => nomatch h
  · constructor
    · intro h
      obtain ⟨rfl, rfl⟩ := EStateM.Result.ok.inj h
      exact ⟨t, rfl, rfl⟩
    · rintro ⟨t', h, rfl⟩
      obtain ⟨hn, rfl⟩ := Prod.mk.inj h
      rw [Except.ok.inj hn]

omit [Transport T] in
theorem parseFrame_eq_ok {raw : List UInt8} {frame : Frame} {s s' : Session T} :
    (parseFrame raw).run s = .ok frame s' ↔ Frame.parse raw = .ok frame ∧ s' = s := by
  unfold parseFrame
  cases Frame.parse raw with
  | error e => exact iff_of_false nofun fun h => nomatch h.1
  | ok f =>
    constructor
    · intro h
      obtain ⟨rfl, rfl⟩ := EStateM.Result.ok.inj h
      exact ⟨rfl, rfl⟩
    · rintro ⟨h, rfl⟩
      rw [Except.ok.inj h]
      rfl

omit [Transport T] in
theorem ensure_eq_ok {c : Prop} [Decidable c] {e : SessionError} {s s' : Session T} {u : Unit} :
    (ensure c e).run s = .ok u s' ↔ c ∧ s' = s := by
  by_cases h : c
  · rw [run_ensure_of h, and_iff_right h]
    constructor
    · intro hrun
      exact (EStateM.Result.ok.inj hrun).2.symm
    · rintro rfl
      rfl
  · rw [run_ensure_not h]
    exact iff_of_false nofun fun h' => h h'.1

omit [Transport T] in
theorem nextPcktid_eq_ok {id : UInt16} {s s' : Session T} :
    (nextPcktid : SessionM T UInt16).run s = .ok id s' ↔ id = succPktId s.pcktid ∧ s' = s.advance := by
  rw [run_nextPcktid]
  constructor
  · intro h
    obtain ⟨rfl, rfl⟩ := EStateM.Result.ok.inj h
    exact ⟨rfl, rfl⟩
  · rintro ⟨rfl, rfl⟩
    rfl

theorem recvUntilL1Ctrl_eq_ok {wantCtrl : UInt16} {phase : String} {raw : List UInt8}
    {s s' : Session T} :
    (recvUntilL1Ctrl wantCtrl phase).run s = .ok raw s' ↔
      ∃ t, poll s.frames (ctrlMatch wantCtrl) 12 s.transport = (.ok raw, t) ∧
        s' = { s with transport := t } := by
  rw [run_recvUntilL1Ctrl, polled_eq_ok]

/-! ## The init reply -/

/-- The reply that the init loop takes out of a frame: an L2 packet with the packet id, whose L1
    source is the target. -/
def initMatch (wantPktId : UInt16) (targetBt : BtAddr) (raw : List UInt8) : Option L2Reply :=
  match Frame.parse raw with
  | .error _ => none
  | .ok frame =>
    match decodeL2 frame.payload with
    | none => none
    | some (hdr, data) =>
      if hdr.pktId = wantPktId ∧ frame.localBt = targetBt then some (replyOf hdr data) else none

theorem initMatch_eq_some {wantPktId : UInt16} {targetBt : BtAddr} {raw : List UInt8}
    {reply : L2Reply} :
    initMatch wantPktId targetBt raw = some reply ↔
      ∃ frame hdr data, Frame.parse raw = .ok frame ∧ decodeL2 frame.payload = some (hdr, data) ∧
        hdr.pktId = wantPktId ∧ frame.localBt = targetBt ∧ reply = replyOf hdr data := by
  rw [initMatch]
  cases Frame.parse raw with
  | error e => exact iff_of_false nofun fun ⟨_, _, _, h, _⟩ => nomatch h
  | ok frame =>
    simp only
    cases hdec : decodeL2 frame.payload with
    | none =>
      refine iff_of_false nofun ?_
      rintro ⟨frame', hdr, data, hframe, hdec', -⟩
      rw [← Except.ok.inj hframe, hdec] at hdec'
      nomatch hdec'
    | some p =>
      obtain ⟨hdr, data⟩ := p
      simp only
      constructor
      · intro h
        split at h
        · rename_i hboth
          exact ⟨frame, hdr, data, rfl, hdec, hboth.1, hboth.2, (Option.some.inj h).symm⟩
        · nomatch h
      · rintro ⟨frame', hdr', data', hframe, hdec', hid, hsrc, rfl⟩
        obtain rfl := Except.ok.inj hframe
        obtain ⟨rfl, rfl⟩ := Prod.mk.inj (Option.some.inj (hdec.symm.trans hdec'))
        rw [if_pos ⟨hid, hsrc⟩]

/-- The two nested loops are polls in a row. -/
theorem run_recvInitFromTarget (wantPktId : UInt16) (targetBt : BtAddr) (s : Session T) :
    (recvInitFromTarget wantPktId targetBt).run s
      = polled "init" s
          (polls s.frames (ctrlMatch 0x0001) 12 (initMatch wantPktId targetBt) 16 s.transport) := by
  rw [recvInitFromTarget]
  generalize 16 = n
  induction n generalizing s with
  | zero => rfl
  | succ n ih =>
    rw [recvInitFromTargetLoop, EStateM.run_bind, run_recvUntilL1Ctrl, polls]
    rcases poll s.frames (ctrlMatch 0x0001) 12 s.transport with ⟨(_ | e) | raw, t⟩
    · rfl
    · rfl
    · simp only [polled, initMatch]
      cases Frame.parse raw with
      | error e => exact ih _
      | ok frame =>
        simp only
        cases decodeL2 frame.payload with
        | none => exact ih _
        | some p =>
          simp only
          by_cases hid : p.1.pktId = wantPktId
          · rw [if_neg (not_not_intro hid)]
            by_cases hsrc : frame.localBt = targetBt
            · rw [if_neg (not_not_intro hsrc), if_pos ⟨hid, hsrc⟩]
              rfl
            · rw [if_pos hsrc, if_neg fun h => hsrc h.2]
              exact ih _
          · rw [if_pos hid, if_neg fun h => hid h.1]
            exact ih _

/-! ## The trace -/

/-- The frames of the handshake that carry a packet id. -/
def initWire (s : Session T) : List UInt8 :=
  l2Wire s.cfg.localBt (buildInitBody (succPktId s.pcktid) s.appSerial)

def logoffWire (s : Session T) : List UInt8 :=
  l2Wire s.cfg.localBt (buildLogoffBody (succPktId (succPktId s.pcktid)) s.appSerial)

/-- The packet id of the logon, the third of the handshake. -/
def logonPktId (s : Session T) : UInt16 := succPktId (succPktId (succPktId s.pcktid))

def logonWire (s : Session T) (nowEpoch : UInt32) : List UInt8 :=
  l2Wire s.cfg.localBt
    (buildLogonBody s.cfg.password s.cfg.userGroup s.logonPktId s.appSerial nowEpoch)

/-- The session in the logon step: the identity is adopted, the logon is out. -/
def atLogon (s : Session T) (initReply : L2Reply) (t : T) : Session T :=
  { s with
    transport := t
    state := .enumerating
    pcktid := s.logonPktId
    inverterSusyId := initReply.appSusyId
    inverterSerial := initReply.appSerial }

/-- A handshake from `s` to `s'`: what was received, and where the transport stood in between. -/
structure HandshakeTrace (s : Session T) (nowEpoch : UInt32) (s' : Session T) where
  hello : List UInt8
  helloFrame : Frame
  topology : List UInt8
  initReply : L2Reply
  accepted : L2Reply
  {t₁ t₂ t₃ t₄ t₅ t₆ t₇ t₈ : T}
  sentVer : ∃ n, Transport.sendFrame s.transport verWire = (.ok n, t₁)
  gotHello : s.frames t₁ = (.ok hello, t₂)
  parsed : Frame.parse hello = .ok helloFrame
  control : helloFrame.control = 0x0002
  long : 23 ≤ hello.length
  firmware : 4 ≤ byteAt hello 19
  sentEcho : ∃ n, Transport.sendFrame t₂ (echoWire helloFrame.localBt (byteAt hello 22)) = (.ok n, t₃)
  gotTopology : poll s.frames (ctrlMatch 0x0005) 12 t₃ = (.ok topology, t₄)
  sentInit : ∃ n, Transport.sendFrame t₄ s.initWire = (.ok n, t₅)
  gotInit : polls s.frames (ctrlMatch 0x0001) 12 (initMatch (succPktId s.pcktid) helloFrame.localBt) 16
    t₅ = (.ok initReply, t₆)
  sentLogoff : ∃ n, Transport.sendFrame t₆ s.logoffWire = (.ok n, t₇)
  sentLogon : ∃ n, Transport.sendFrame t₇ (s.logonWire nowEpoch) = (.ok n, t₈)
  loggedOn : ∃ s₉, (recvLogonReply s.logonPktId).run (s.atLogon initReply t₈) = .ok accepted s₉ ∧
    s' = { s₉ with state := .loggedIn }

/-! ### The handshake in three parts -/

/-- Logoff and logon, with the configuration as it was read before the init. -/
def logonSteps (nowEpoch : UInt32) (config : Session T) : SessionM T Unit := do
  let logoffId ← nextPcktid
  let _ ← sendFrame (l2Wire config.cfg.localBt (buildLogoffBody logoffId config.appSerial))
  let logonId ← nextPcktid
  let _ ← sendFrame (l2Wire config.cfg.localBt
    (buildLogonBody config.cfg.password config.cfg.userGroup logonId config.appSerial nowEpoch))
  let _ ← recvLogonReply logonId
  modify fun s => { s with state := .loggedIn }

/-- Everything behind the topology. -/
def initSteps (nowEpoch : UInt32) (targetBt : BtAddr) : SessionM T Unit := do
  modify fun s => { s with state := .enumerating }
  let initId ← nextPcktid
  let s ← get
  let _ ← sendFrame (l2Wire s.cfg.localBt (buildInitBody initId s.appSerial))
  let initReply ← recvInitFromTarget initId targetBt
  modify fun s =>
    { s with inverterSusyId := initReply.appSusyId, inverterSerial := initReply.appSerial }
  logonSteps nowEpoch s

/-- Everything up to the topology, and then `next` with the sender of the hello. -/
def helloSteps (next : BtAddr → SessionM T Unit) : SessionM T Unit := do
  modify fun s => { s with state := .handshaking }
  let _ ← sendFrame verWire
  let helloBytes ← recvFrame "hello"
  let hello ← parseFrame helloBytes
  ensure (hello.control = 0x0002) (.protocol "hello-ctrl")
  ensure (23 ≤ helloBytes.length) (.protocol "hello-short")
  ensure (4 ≤ byteAt helloBytes 19) (.firmwareTooOld (byteAt helloBytes 19))
  let _ ← sendFrame (echoWire hello.localBt (byteAt helloBytes 22))
  let _ ← recvUntilL1Ctrl 0x0005 "topology"
  next hello.localBt

theorem handshakeAndLogon_eq (nowEpoch : UInt32) :
    (handshakeAndLogon nowEpoch : SessionM T Unit) = helloSteps (initSteps nowEpoch) := rfl

theorem helloSteps_eq_ok_iff {s s' : Session T} {next : BtAddr → SessionM T Unit} :
    (helloSteps next).run s = .ok () s' ↔
      ∃ hello helloFrame topology t₁ t₂ t₃ t₄,
        (∃ n, Transport.sendFrame s.transport verWire = (.ok n, t₁)) ∧
        s.frames t₁ = (.ok hello, t₂) ∧ Frame.parse hello = .ok helloFrame ∧
        helloFrame.control = 0x0002 ∧ 23 ≤ hello.length ∧ 4 ≤ byteAt hello 19 ∧
        (∃ n, Transport.sendFrame t₂ (echoWire helloFrame.localBt (byteAt hello 22)) = (.ok n, t₃)) ∧
        poll s.frames (ctrlMatch 0x0005) 12 t₃ = (.ok topology, t₄) ∧
        (next helloFrame.localBt).run { s with transport := t₄, state := .handshaking } = .ok () s' := by
  constructor
  · intro h
    obtain ⟨_, _, hrun, h⟩ := bind_eq_ok.mp h
    obtain rfl := modify_eq_ok.mp hrun
    obtain ⟨n₁, _, hrun, h⟩ := bind_eq_ok.mp h
    obtain ⟨t₁, hver, rfl⟩ := sendFrame_eq_ok.mp hrun
    obtain ⟨hello, _, hrun, h⟩ := bind_eq_ok.mp h
    obtain ⟨t₂, hhello, rfl⟩ := recvFrame_eq_ok.mp hrun
    obtain ⟨helloFrame, _, hrun, h⟩ := bind_eq_ok.mp h
    obtain ⟨hparse, rfl⟩ := parseFrame_eq_ok.mp hrun
    obtain ⟨_, _, hrun, h⟩ := bind_eq_ok.mp h
    obtain ⟨hctrl, rfl⟩ := ensure_eq_ok.mp hrun
    obtain ⟨_, _, hrun, h⟩ := bind_eq_ok.mp h
    obtain ⟨hlong, rfl⟩ := ensure_eq_ok.mp hrun
    obtain ⟨_, _, hrun, h⟩ := bind_eq_ok.mp h
    obtain ⟨hfirmware, rfl⟩ := ensure_eq_ok.mp hrun
    obtain ⟨n₂, _, hrun, h⟩ := bind_eq_ok.mp h
    obtain ⟨t₃, hecho, rfl⟩ := sendFrame_eq_ok.mp hrun
    obtain ⟨topology, _, hrun, h⟩ := bind_eq_ok.mp h
    obtain ⟨t₄, htopology, rfl⟩ := recvUntilL1Ctrl_eq_ok.mp hrun
    exact ⟨hello, helloFrame, topology, t₁, t₂, t₃, t₄, ⟨n₁, hver⟩, hhello, hparse, hctrl, hlong,
      hfirmware, ⟨n₂, hecho⟩, htopology, h⟩
  · rintro ⟨hello, helloFrame, topology, t₁, t₂, t₃, t₄, ⟨n₁, hver⟩, hhello, hparse, hctrl, hlong,
      hfirmware, ⟨n₂, hecho⟩, htopology, h⟩
    refine bind_eq_ok.mpr ⟨(), _, modify_eq_ok.mpr rfl, ?_⟩
    refine bind_eq_ok.mpr ⟨n₁, _, sendFrame_eq_ok.mpr ⟨t₁, hver, rfl⟩, ?_⟩
    refine bind_eq_ok.mpr ⟨hello, _, recvFrame_eq_ok.mpr ⟨t₂, hhello, rfl⟩, ?_⟩
    refine bind_eq_ok.mpr ⟨helloFrame, _, parseFrame_eq_ok.mpr ⟨hparse, rfl⟩, ?_⟩
    refine bind_eq_ok.mpr ⟨(), _, ensure_eq_ok.mpr ⟨hctrl, rfl⟩, ?_⟩
    refine bind_eq_ok.mpr ⟨(), _, ensure_eq_ok.mpr ⟨hlong, rfl⟩, ?_⟩
    refine bind_eq_ok.mpr ⟨(), _, ensure_eq_ok.mpr ⟨hfirmware, rfl⟩, ?_⟩
    refine bind_eq_ok.mpr ⟨n₂, _, sendFrame_eq_ok.mpr ⟨t₃, hecho, rfl⟩, ?_⟩
    exact bind_eq_ok.mpr ⟨topology, _, recvUntilL1Ctrl_eq_ok.mpr ⟨t₄, htopology, rfl⟩, h⟩

theorem logonSteps_eq_ok_iff {s s' config : Session T} {nowEpoch : UInt32} :
    (logonSteps nowEpoch config).run s = .ok () s' ↔
      ∃ t₇ t₈ accepted s₉,
        (∃ n, Transport.sendFrame s.transport (l2Wire config.cfg.localBt
          (buildLogoffBody (succPktId s.pcktid) config.appSerial)) = (.ok n, t₇)) ∧
        (∃ n, Transport.sendFrame t₇ (l2Wire config.cfg.localBt
          (buildLogonBody config.cfg.password config.cfg.userGroup (succPktId (succPktId s.pcktid))
            config.appSerial nowEpoch)) = (.ok n, t₈)) ∧
        (recvLogonReply (succPktId (succPktId s.pcktid))).run
          { s with transport := t₈, pcktid := succPktId (succPktId s.pcktid) } = .ok accepted s₉ ∧
        s' = { s₉ with state := .loggedIn } := by
  simp only [logonSteps, bind_eq_ok, modify_eq_ok, nextPcktid_eq_ok, sendFrame_eq_ok]
  constructor
  · rintro ⟨_, _, ⟨rfl, rfl⟩, n₄, _, ⟨t₇, hlogoff, rfl⟩, _, _, ⟨rfl, rfl⟩, n₅, _, ⟨t₈, hlogon, rfl⟩,
      accepted, s₉, haccepted, rfl⟩
    exact ⟨t₇, t₈, accepted, s₉, ⟨n₄, hlogoff⟩, ⟨n₅, hlogon⟩, haccepted, rfl⟩
  · rintro ⟨t₇, t₈, accepted, s₉, ⟨n₄, hlogoff⟩, ⟨n₅, hlogon⟩, haccepted, rfl⟩
    exact ⟨_, _, ⟨rfl, rfl⟩, n₄, _, ⟨t₇, hlogoff, rfl⟩, _, _, ⟨rfl, rfl⟩, n₅, _, ⟨t₈, hlogon, rfl⟩,
      accepted, s₉, haccepted, rfl⟩

theorem initSteps_eq_ok_iff {s s' : Session T} {nowEpoch : UInt32} {targetBt : BtAddr} :
    (initSteps nowEpoch targetBt).run s = .ok () s' ↔
      ∃ t₅ t₆ initReply,
        (∃ n, Transport.sendFrame s.transport s.initWire = (.ok n, t₅)) ∧
        polls s.frames (ctrlMatch 0x0001) 12 (initMatch (succPktId s.pcktid) targetBt) 16 t₅
          = (.ok initReply, t₆) ∧
        (logonSteps nowEpoch s).run
          { s with
            transport := t₆
            state := .enumerating
            pcktid := succPktId s.pcktid
            inverterSusyId := initReply.appSusyId
            inverterSerial := initReply.appSerial } = .ok () s' := by
  simp only [initSteps, bind_eq_ok, modify_eq_ok, get_eq_ok, nextPcktid_eq_ok, sendFrame_eq_ok,
    run_recvInitFromTarget, polled_eq_ok]
  constructor
  · rintro ⟨_, _, rfl, _, _, ⟨rfl, rfl⟩, _, _, ⟨rfl, rfl⟩, n₃, _, ⟨t₅, hinit, rfl⟩, initReply, _,
      ⟨t₆, hreply, rfl⟩, _, _, rfl, h⟩
    exact ⟨t₅, t₆, initReply, ⟨n₃, hinit⟩, hreply, h⟩
  · rintro ⟨t₅, t₆, initReply, ⟨n₃, hinit⟩, hreply, h⟩
    exact ⟨(), _, rfl, _, _, ⟨rfl, rfl⟩, _, _, ⟨rfl, rfl⟩, n₃, _, ⟨t₅, hinit, rfl⟩, initReply, _,
      ⟨t₆, hreply, rfl⟩, (), _, rfl, h⟩

/-- **When a handshake succeeds**: it leaves such a trace. -/
theorem handshakeAndLogon_eq_ok_iff {s s' : Session T} {nowEpoch : UInt32} :
    (handshakeAndLogon nowEpoch).run s = .ok () s' ↔ Nonempty (HandshakeTrace s nowEpoch s') := by
  rw [handshakeAndLogon_eq, helloSteps_eq_ok_iff]
  simp only [initSteps_eq_ok_iff, logonSteps_eq_ok_iff]
  constructor
  · rintro ⟨hello, helloFrame, topology, t₁, t₂, t₃, t₄, hver, hhello, hparse, hctrl, hlong, hfirmware,
      hecho, htopology, t₅, t₆, initReply, hinit, hreply, t₇, t₈, accepted, s₉, hlogoff, hlogon,
      haccepted, rfl⟩
    exact ⟨⟨hello, helloFrame, topology, initReply, accepted, hver, hhello, hparse, hctrl, hlong,
      hfirmware, hecho, htopology, hinit, hreply, hlogoff, hlogon, s₉, haccepted, rfl⟩⟩
  · rintro ⟨hello, helloFrame, topology, initReply, accepted, hver, hhello, hparse, hctrl, hlong,
      hfirmware, hecho, htopology, hinit, hreply, hlogoff, hlogon, s₉, haccepted, rfl⟩
    exact ⟨hello, helloFrame, topology, _, _, _, _, hver, hhello, hparse, hctrl, hlong, hfirmware,
      hecho, htopology, _, _, initReply, hinit, hreply, _, _, accepted, s₉, hlogoff, hlogon,
      haccepted, rfl⟩

/-! ## Whose identity is adopted -/

/-- What was received and sent in a handshake, in order: `noise` before the topology, `skipped` before
    the init reply, `rejected` before the accepting logon reply. -/
structure HandshakeEvents (s : Session (Recorder T)) (nowEpoch : UInt32) (s' : Session (Recorder T))
    where
  hello : List UInt8
  helloFrame : Frame
  noise : List (List UInt8)
  skipped : List (List UInt8)
  initRaw : List UInt8
  initReply : L2Reply
  rejected : List (List UInt8)
  accepted : List UInt8
  n₁ : Nat
  n₂ : Nat
  n₃ : Nat
  n₄ : Nat
  n₅ : Nat
  parsed : Frame.parse hello = .ok helloFrame
  matched : initMatch (succPktId s.pcktid) helloFrame.localBt initRaw = some initReply
  acceptedBy : IsLogonReply s.logonPktId accepted 0
  adopted : s'.inverterSusyId = initReply.appSusyId ∧ s'.inverterSerial = initReply.appSerial
  counter : s'.pcktid = s.logonPktId
  events : Logged s
    ([.sent verWire (.ok n₁), .received (.ok hello),
        .sent (echoWire helloFrame.localBt (byteAt hello 22)) (.ok n₂)]
      ++ noise.map (fun raw => .received (.ok raw)) ++ [.sent s.initWire (.ok n₃)]
      ++ (skipped ++ [initRaw]).map (fun raw => .received (.ok raw))
      ++ [.sent s.logoffWire (.ok n₄), .sent (s.logonWire nowEpoch) (.ok n₅)]
      ++ (rejected ++ [accepted]).map fun raw => .received (.ok raw)) s'

/-- A handshake that succeeds leaves these events in the log. -/
theorem HandshakeTrace.events {s s' : Session (Recorder T)} {nowEpoch : UInt32}
    (tr : HandshakeTrace s nowEpoch s') :
    ∃ ev : HandshakeEvents s nowEpoch s', ev.hello = tr.hello := by
  obtain ⟨hello, helloFrame, topology, initReply, accepted, ⟨n₁, hver⟩, hhello, hparse, -, -, -,
    ⟨n₂, hecho⟩, htopology, ⟨n₃, hinit⟩, hreply, ⟨n₄, hlogoff⟩, ⟨n₅, hlogon⟩, s₉, haccepted, rfl⟩ := tr
  obtain ⟨noise, last, -, hdel₄, -, hlast⟩ := poll_eq_ok_iff.mp htopology
  obtain ⟨rfl, -⟩ := ctrlMatch_eq_some.mp hlast
  obtain ⟨skipped, initRaw, c, hdel₆, -, -, -, hctrl, hinitReply⟩ := polls_eq_ok_iff.mp hreply
  obtain ⟨rfl, -⟩ := ctrlMatch_eq_some.mp hctrl
  obtain ⟨rejected, acceptedRaw, t₉, hdel₉, rfl, hlogonReply⟩ := recvLogonReply_delivers haccepted
  refine ⟨⟨hello, helloFrame, noise ++ [topology], skipped, c, initReply, rejected, acceptedRaw, n₁,
    n₂, n₃, n₄, n₅, hparse, hinitReply, hlogonReply, ⟨rfl, rfl⟩, rfl, ?_⟩, rfl⟩
  show t₉.log = _
  rw [Recorder.delivers_log hdel₉, show (s.atLogon initReply _).transport.log = _ from
    Recorder.log_of_sent hlogon, Recorder.log_of_sent hlogoff, Recorder.delivers_log hdel₆,
    Recorder.log_of_sent hinit, Recorder.delivers_log hdel₄, Recorder.log_of_sent hecho,
    Recorder.log_of_received hhello, Recorder.log_of_sent hver]
  simp only [List.append_assoc, List.cons_append, List.nil_append]

/-- The frame that came in last before the logoff of the handshake went out, which is when the identity
    is adopted. -/
def AdoptedFrom (s s' : Session (Recorder T)) (raw : List UInt8) : Prop :=
  ∃ before after result,
    eventsSince s s' = before ++ .received (.ok raw) :: .sent s.logoffWire result :: after

/-- The identity of `s'` was taken from an L2 packet with the packet id of the init frame sent in this
    handshake, whose L1 source is the configured inverter. -/
def AdoptsConfigured (s s' : Session (Recorder T)) : Prop :=
  ∃ raw frame hdr data pktId result, AdoptedFrom s s' raw ∧ Frame.parse raw = .ok frame ∧
    decodeL2 frame.payload = some (hdr, data) ∧
    .sent (l2Wire s.cfg.localBt (buildInitBody pktId s.appSerial)) result ∈ eventsSince s s' ∧
    hdr.pktId = pktId ∧ s'.inverterSusyId = hdr.appSusyId ∧ s'.inverterSerial = hdr.appSerial ∧
    frame.localBt = s.cfg.inverterBt

def receivedFrame : IoEvent → Option (List UInt8)
  | .received (.ok raw) => some raw
  | _ => none

/-- The first frame received from `s` to `s'` comes from this address. -/
def FirstHeardFrom (bt : BtAddr) (s s' : Session (Recorder T)) : Prop :=
  ∃ raw frame, (eventsSince s s').findSome? receivedFrame = some raw ∧
    Frame.parse raw = .ok frame ∧ frame.localBt = bt

omit [Transport T] in
/-- The logoff is told apart from the other frames of the handshake by its command. -/
theorem logoffWire_ne (s : Session T) (targetBt : BtAddr) (netId : UInt8) (nowEpoch : UInt32) :
    s.logoffWire ≠ verWire ∧ s.logoffWire ≠ echoWire targetBt netId ∧ s.logoffWire ≠ s.initWire ∧
      s.logoffWire ≠ s.logonWire nowEpoch := by
  have hlogoff : commandOf s.logoffWire = some logoffCommand := commandOf_logoffBody _ _ _
  have hinit : commandOf s.initWire = some 0x00000200 := by
    rw [initWire, buildInitBody, List.append_assoc]
    exact commandOf_l2Wire s.cfg.localBt _ _ (by decide)
  have hlogon : commandOf (s.logonWire nowEpoch) = some logonCommand := by
    rw [logonWire, buildLogonBody]
    simp only [List.append_assoc]
    exact commandOf_l2Wire s.cfg.localBt _ _ (by simp)
  refine ⟨?_, ?_, ?_, ?_⟩
  · intro h
    rw [h, commandOf, l2Of_verWire] at hlogoff
    cases hlogoff
  · intro h
    rw [h, commandOf, l2Of_echoWire] at hlogoff
    cases hlogoff
  · intro h
    rw [h, hinit] at hlogoff
    exact absurd hlogoff (by decide)
  · intro h
    rw [h, hlogon] at hlogoff
    exact absurd hlogoff (by decide)

omit [Transport T] in
/-- There is one frame that the identity was adopted from: the init reply. -/
theorem HandshakeEvents.adoptedFrom_iff {s s' : Session (Recorder T)} {nowEpoch : UInt32}
    (ev : HandshakeEvents s nowEpoch s') {raw : List UInt8} :
    AdoptedFrom s s' raw ↔ raw = ev.initRaw := by
  obtain ⟨hello, helloFrame, noise, skipped, initRaw, initReply, rejected, accepted, n₁, n₂, n₃, n₄,
    n₅, -, -, -, -, -, hlog⟩ := ev
  obtain ⟨hver, hecho, hinit, hlogon⟩ :=
    logoffWire_ne s helloFrame.localBt (byteAt hello 22) nowEpoch
  let front : List IoEvent :=
    [.sent verWire (.ok n₁), .received (.ok hello),
        .sent (echoWire helloFrame.localBt (byteAt hello 22)) (.ok n₂)]
      ++ noise.map (fun raw => .received (.ok raw)) ++ [.sent s.initWire (.ok n₃)]
      ++ skipped.map fun raw => .received (.ok raw)
  let back : List IoEvent :=
    .sent (s.logonWire nowEpoch) (.ok n₅) ::
      (rejected ++ [accepted]).map fun raw => .received (.ok raw)
  have hevents : eventsSince s s'
      = (front ++ [.received (.ok initRaw)]) ++ .sent s.logoffWire (.ok n₄) :: back := by
    rw [eventsSince_of_logged hlog]
    simp only [front, back, List.map_append, List.map_cons, List.map_nil, List.append_assoc,
      List.cons_append, List.nil_append]
  have hfront : ∀ r, IoEvent.sent s.logoffWire r ∉ front ++ [.received (.ok initRaw)] := by
    intro r hmem
    simp [front, hver, hecho, hinit] at hmem
  have hback : ∀ r, IoEvent.sent s.logoffWire r ∉ back := by
    intro r hmem
    simp [back, hlogon] at hmem
  constructor
  · rintro ⟨before, after, result, hsplit⟩
    rw [hevents, ← List.singleton_append (l := .sent s.logoffWire result :: after),
      ← List.append_assoc] at hsplit
    have hresult : IoEvent.sent s.logoffWire result = .sent s.logoffWire (.ok n₄) := by
      have hmem : IoEvent.sent s.logoffWire result
          ∈ (front ++ [.received (.ok initRaw)]) ++ .sent s.logoffWire (.ok n₄) :: back := by
        rw [hsplit]
        exact List.mem_append_right _ List.mem_cons_self
      rcases List.mem_append.mp hmem with hin | hin
      · exact absurd hin (hfront result)
      · rcases List.mem_cons.mp hin with heq | hin
        · exact heq
        · exact absurd hin (hback result)
    rw [hresult] at hsplit
    obtain ⟨hbefore, -⟩ := (List.append_cons_inj_of_notMem (hfront _) (hback _)).mp hsplit
    have hlast := (List.append_inj' hbefore.symm rfl).2
    exact Except.ok.inj (IoEvent.received.inj (List.singleton_inj.mp hlast))
  · rintro rfl
    refine ⟨front, back, .ok n₄, ?_⟩
    rw [hevents, List.append_assoc, List.singleton_append]

omit [Transport T] in
theorem HandshakeEvents.first_heard {s s' : Session (Recorder T)} {nowEpoch : UInt32}
    (ev : HandshakeEvents s nowEpoch s') :
    (eventsSince s s').findSome? receivedFrame = some ev.hello := by
  rw [eventsSince_of_logged ev.events]
  rfl

/-- **When the identity is that of the configured inverter.**  The init reply has to come from the
    sender of the hello, whoever that is; the configured address is not looked at.  So a handshake
    that succeeds has adopted the configured inverter exactly if that is the first to be heard. -/
theorem identity_configured_iff {s s' : Session (Recorder T)} {nowEpoch : UInt32}
    (hok : (handshakeAndLogon nowEpoch).run s = .ok () s') :
    AdoptsConfigured s s' ↔ FirstHeardFrom s.cfg.inverterBt s s' := by
  obtain ⟨tr⟩ := handshakeAndLogon_eq_ok_iff.mp hok
  obtain ⟨ev, -⟩ := tr.events
  have hfirst := ev.first_heard
  have hadopted : AdoptedFrom s s' ev.initRaw := ev.adoptedFrom_iff.mpr rfl
  obtain ⟨frame, hdr, data, hparse, hdec, hid, hsrc, hreply⟩ := initMatch_eq_some.mp ev.matched
  constructor
  · rintro ⟨raw, frame', hdr', data', pktId, result, hraw, hparse', -, -, -, -, -, hconfigured⟩
    obtain rfl := ev.adoptedFrom_iff.mp hraw
    obtain rfl := Except.ok.inj (hparse.symm.trans hparse')
    exact ⟨ev.hello, ev.helloFrame, hfirst, ev.parsed, hsrc.symm.trans hconfigured⟩
  · rintro ⟨hello, helloFrame, hheard, hparse', hconfigured⟩
    obtain rfl := Option.some.inj (hfirst.symm.trans hheard)
    obtain rfl := Except.ok.inj (ev.parsed.symm.trans hparse')
    refine ⟨ev.initRaw, frame, hdr, data, succPktId s.pcktid, .ok ev.n₃, hadopted, hparse, hdec, ?_,
      hid, ?_, ?_, hsrc.trans hconfigured⟩
    · rw [eventsSince_of_logged ev.events, ← initWire]
      simp
    · rw [ev.adopted.1, hreply]
      rfl
    · rw [ev.adopted.2, hreply]
      rfl

/-! ### An inverter that answers -/

theorem parse_l1Wire (src : BtAddr) (control : UInt16) {payload : List UInt8}
    (hsig : ¬ btL2SigBytes <+: payload) (hsep : ¬ frameDelimiter :: btL2SigBytes <+: payload)
    (hlen : payload.length < 65000) :
    Frame.parse (l1Wire src control payload) = .ok ⟨.l1Only, src, .fill 0, control, payload⟩ := by
  have hwire : (Frame.wire ⟨.l1Only, src, .fill 0, control, payload⟩).length = 18 + payload.length :=
    Frame.length_wire_l1Only rfl
  exact Frame.parse_wire (m := ⟨.l1Only, src, .fill 0, control, payload⟩) ⟨hsig, hsep⟩ (by omega)

theorem parse_helloReply :
    Frame.parse (l1Wire (.fill 1) 0x0002 [0, 4, 0x70, 0, 1])
      = .ok ⟨.l1Only, .fill 1, .fill 0, 0x0002, [0, 4, 0x70, 0, 1]⟩ :=
  parse_l1Wire _ _ (by decide) (by decide) (by decide)

/-- Over a transport that takes every frame and has the replies of a handshake to deliver, a new
    session logs in.  `A rs t` says that `t` is such a transport, with `rs` to deliver. -/
theorem handshake_answered {A : List (List UInt8) → T → Prop} {s : Session T} (nowEpoch : UInt32)
    (hsend : ∀ rs t data, A rs t → ∃ n t', Transport.sendFrame t data = (.ok n, t') ∧ A rs t')
    (hrecv : ∀ r rs t, A (r :: rs) t → ∃ t', s.frames t = (.ok r, t') ∧ A rs t')
    (hnew : s.pcktid = 0) (hstart : A handshakeReplies s.transport) :
    ∃ s', ∃ tr : HandshakeTrace s nowEpoch s', tr.hello = l1Wire (.fill 1) 0x0002 [0, 4, 0x70, 0, 1] := by
  obtain ⟨n₁, t₁, hver, h₁⟩ := hsend _ _ verWire hstart
  obtain ⟨t₂, hhello, h₂⟩ := hrecv _ _ _ h₁
  obtain ⟨n₂, t₃, hecho, h₃⟩ := hsend _ _ (echoWire (.fill 1) 1) h₂
  obtain ⟨t₄, htopology, h₄⟩ := hrecv _ _ _ h₃
  obtain ⟨n₃, t₅, hinit, h₅⟩ := hsend _ _ s.initWire h₄
  obtain ⟨t₆, hreply, h₆⟩ := hrecv _ _ _ h₅
  obtain ⟨n₄, t₇, hlogoff, h₇⟩ := hsend _ _ s.logoffWire h₆
  obtain ⟨n₅, t₈, hlogon, h₈⟩ := hsend _ _ (s.logonWire nowEpoch) h₇
  obtain ⟨t₉, haccepted, -⟩ := hrecv _ _ _ h₈
  have htop : ctrlMatch 0x0005 (l1Wire (.fill 1) 0x0005 []) = some (l1Wire (.fill 1) 0x0005 []) :=
    ctrlMatch_eq_some.mpr ⟨rfl, _, parse_l1Wire _ _ (by decide) (by decide) (by decide), rfl⟩
  have hinitFrame := @parse_l2Wire (.fill 1) (.init 1 7) [] (by decide)
  have hmatch : initMatch (succPktId s.pcktid) (.fill 1) (l2Wire (.fill 1) (encodeL2 (.init 1 7) []))
      = some (replyOf { L2Header.init 1 7 with pktId := wirePktId 1 } []) := by
    rw [hnew]
    exact initMatch_eq_some.mpr ⟨_, _, _, hinitFrame, decodeL2_encodeL2 _ _, rfl, rfl, rfl⟩
  have hlogonReply : IsLogonReply s.logonPktId (l2Wire (.fill 1) (encodeL2 (.logon 3 7) [])) 0 := by
    rw [logonPktId, hnew]
    exact ⟨_, _, _, parse_l2Wire _ _ (by decide), rfl, decodeL2_encodeL2 _ _, rfl, rfl⟩
  let initReply := replyOf { L2Header.init 1 7 with pktId := wirePktId 1 } []
  obtain ⟨reply, hcode, hloop⟩ := run_logonReplyLoop_cons hlogonReply
    (s := s.atLogon initReply t₈) haccepted 15 none
  have hdel : Delivers s.frames t₃ ([] ++ [l1Wire (.fill 1) 0x0005 []]) t₄ := .cons htopology (.nil _)
  have htopology' : poll s.frames (ctrlMatch 0x0005) 12 t₃ = (.ok (l1Wire (.fill 1) 0x0005 []), t₄) :=
    poll_found hdel (fun _ h => nomatch h) htop (by decide)
  have hinit' : polls s.frames (ctrlMatch 0x0001) 12 (initMatch (succPktId s.pcktid) (.fill 1)) 16 t₅
      = (.ok initReply, t₆) :=
    polls_eq_ok_iff.mpr ⟨[], _, _, .cons hreply (.nil _), shortGaps_of_none (by decide), by decide,
      (fun _ h => nomatch h), ctrlMatch_eq_some.mpr ⟨rfl, _, hinitFrame, rfl⟩, hmatch⟩
  have hloggedOn : (recvLogonReply s.logonPktId).run (s.atLogon initReply t₈)
      = .ok reply (s.atLogon initReply t₉) := by
    rw [recvLogonReply, EStateM.run_bind, hloop]
    rfl
  exact ⟨_, ⟨_, _, _, initReply, reply, ⟨n₁, hver⟩, hhello, parse_helloReply, rfl, by decide, by decide,
    ⟨n₂, hecho⟩, htopology', ⟨n₃, hinit⟩, hinit', ⟨n₄, hlogoff⟩, ⟨n₅, hlogon⟩, _, hloggedOn, rfl⟩, rfl⟩

/-- A new session over a peer with these frames to send, configured for the inverter at `inverterBt`. -/
def freshSession (inverterBt : BtAddr) (replies : List (List UInt8)) :
    Session (Recorder MockTransport) :=
  newWithAppSerial ⟨⟨replies, [], false⟩, []⟩ ⟨inverterBt, .fill 2, "0000", .user, 1000⟩ 900000000

theorem fresh_handshake (inverterBt : BtAddr) :
    ∃ s', ∃ tr : HandshakeTrace (freshSession inverterBt handshakeReplies) 0 s',
      tr.hello = l1Wire (.fill 1) 0x0002 [0, 4, 0x70, 0, 1] := by
  refine handshake_answered (A := fun rs t => t.inner.replies = rs ∧ t.inner.isClosed = false) 0 ?_ ?_
    rfl ⟨rfl, rfl⟩
  · rintro rs ⟨⟨replies, sent, isClosed⟩, log⟩ data ⟨rfl, rfl⟩
    exact ⟨_, _, rfl, rfl, rfl⟩
  · rintro r rs ⟨⟨replies, sent, isClosed⟩, log⟩ ⟨rfl, rfl⟩
    exact ⟨_, rfl, rfl, rfl⟩

theorem identity_configured_iff_same :
    ∃ s', (handshakeAndLogon 0).run (freshSession (.fill 1) handshakeReplies) = .ok () s' ∧
      (AdoptsConfigured (freshSession (.fill 1) handshakeReplies) s' ↔
        FirstHeardFrom (.fill 1) (freshSession (.fill 1) handshakeReplies) s') :=
  have ⟨s', tr, _⟩ := fresh_handshake (.fill 1)
  have hok := handshakeAndLogon_eq_ok_iff.mpr ⟨tr⟩
  ⟨s', hok, identity_configured_iff hok⟩

/-- The configured inverter is at one address; a device at another one says hello and answers: the
    handshake succeeds, and the identity is the other device's. -/
theorem identity_not_configured :
    ∃ s', (handshakeAndLogon 0).run (freshSession (.fill 9) handshakeReplies) = .ok () s' ∧
      ¬ AdoptsConfigured (freshSession (.fill 9) handshakeReplies) s' := by
  obtain ⟨s', tr, hhello⟩ := fresh_handshake (.fill 9)
  have hok := handshakeAndLogon_eq_ok_iff.mpr ⟨tr⟩
  refine ⟨s', hok, ?_⟩
  intro hadopts
  obtain ⟨ev, hev⟩ := tr.events
  obtain ⟨raw, frame, hheard, hparse, hconfigured⟩ := (identity_configured_iff hok).mp hadopts
  rw [ev.first_heard, hev, hhello] at hheard
  obtain rfl := Option.some.inj hheard
  obtain rfl := Except.ok.inj (parse_helloReply.symm.trans hparse)
  exact absurd hconfigured (by decide)

/-! ## Who else may talk -/

/-- The target's init reply: a well-formed frame with the L2 control word, from the target's address,
    with an L2 packet that carries the packet id. -/
def IsInitReply (pktId : UInt16) (targetBt : BtAddr) (raw : List UInt8) : Prop :=
  ∃ frame hdr data, Frame.parse raw = .ok frame ∧ frame.control = 0x0001 ∧
    decodeL2 frame.payload = some (hdr, data) ∧ hdr.pktId = pktId ∧ frame.localBt = targetBt

theorem isInitReply_of_matches {pktId : UInt16} {targetBt : BtAddr} {raw bytes : List UInt8}
    {reply : L2Reply} (hctrl : ctrlMatch 0x0001 raw = some bytes)
    (hreply : initMatch pktId targetBt raw = some reply) : IsInitReply pktId targetBt raw := by
  obtain ⟨-, frame, hparse, hcontrol⟩ := ctrlMatch_eq_some.mp hctrl
  obtain ⟨frame', hdr, data, hparse', hdec, hid, hsrc, -⟩ := initMatch_eq_some.mp hreply
  obtain rfl := Except.ok.inj (hparse.symm.trans hparse')
  exact ⟨frame, hdr, data, hparse, hcontrol, hdec, hid, hsrc⟩

/-- What is not the target's reply is passed over by one of the two loops. -/
theorem initMatch_eq_none_of_not {pktId : UInt16} {targetBt : BtAddr} {others : List (List UInt8)}
    (h : ∀ o ∈ others, ¬ IsInitReply pktId targetBt o) :
    ∀ o ∈ others.filterMap (ctrlMatch 0x0001), initMatch pktId targetBt o = none := by
  intro o ho
  obtain ⟨raw, hraw, hctrl⟩ := List.mem_filterMap.mp ho
  obtain ⟨rfl, -⟩ := ctrlMatch_eq_some.mp hctrl
  cases hreply : initMatch pktId targetBt o with
  | none => rfl
  | some reply => exact absurd (isInitReply_of_matches hctrl hreply) (h o hraw)

theorem not_isInitReply_of_none {pktId : UInt16} {targetBt : BtAddr} {others : List (List UInt8)}
    (h : ∀ o ∈ others.filterMap (ctrlMatch 0x0001), initMatch pktId targetBt o = none) :
    ∀ o ∈ others, ¬ IsInitReply pktId targetBt o := by
  rintro o ho ⟨frame, hdr, data, hparse, hcontrol, hdec, hid, hsrc⟩
  have hctrl : ctrlMatch 0x0001 o = some o := ctrlMatch_eq_some.mpr ⟨rfl, frame, hparse, hcontrol⟩
  have hreply := initMatch_eq_some.mpr ⟨frame, hdr, data, hparse, hdec, hid, hsrc, rfl⟩
  exact nomatch (h o (List.mem_filterMap.mpr ⟨o, ho, hctrl⟩)).symm.trans hreply

/-- The same session with other receives to come. -/
def withInbox (s : Session Scripted) (inbox : List (Except TransportError (List UInt8))) :
    Session Scripted :=
  { s with transport := s.transport.withInbox inbox }

/-- The transcript up to the init reply: a hello, noise up to the first topology frame, frames of
    others up to the first reply of the target, and the rest. -/
structure InitPhase (s : Session Scripted) (targetBt : BtAddr) (hello : List UInt8)
    (noise : List (List UInt8)) (topology : List UInt8) (others : List (List UInt8))
    (reply : List UInt8) (rest : List (Except TransportError (List UInt8))) : Prop where
  inbox : s.transport.inbox = (hello :: noise ++ topology :: others ++ [reply]).map .ok ++ rest
  sender : ∃ frame, Frame.parse hello = .ok frame ∧ frame.localBt = targetBt
  noise : ∀ o ∈ noise, ctrlMatch 0x0005 o = none
  topology : ctrlMatch 0x0005 topology = some topology
  others : ∀ o ∈ others, ¬ IsInitReply (succPktId s.pcktid) targetBt o
  reply : IsInitReply (succPktId s.pcktid) targetBt reply

/-- What the init phase puts up with: frames that are not the target's reply, fewer than 16 of them
    well-formed with the L2 control word, and never 12 in a row malformed or with another one. -/
structure Tolerable (pktId : UInt16) (targetBt : BtAddr) (others : List (List UInt8)) : Prop where
  foreign : ∀ o ∈ others, ¬ IsInitReply pktId targetBt o
  few : (others.filterMap (ctrlMatch 0x0001)).length < 16
  gaps : ShortGaps (ctrlMatch 0x0001) 12 others

/-- **Nobody else has a say in the init phase.**  Take the transcript of any handshake that succeeds,
    and put other frames in the place of those of the others, more of them or fewer.  As long as they
    are tolerable the handshake ends in the very same session: the same identity and state, the same
    frames sent, the same frames left to receive. -/
theorem init_phase_noninterference {s s' : Session Scripted} {nowEpoch : UInt32}
    (hok : (handshakeAndLogon nowEpoch).run s = .ok () s') :
    ∃ targetBt hello noise topology others reply rest,
      InitPhase s targetBt hello noise topology others reply rest ∧
      ∀ others', Tolerable (succPktId s.pcktid) targetBt others' →
        (handshakeAndLogon nowEpoch).run
          (s.withInbox ((hello :: noise ++ topology :: others' ++ [reply]).map .ok ++ rest))
          = .ok () s' := by
  obtain ⟨tr⟩ := handshakeAndLogon_eq_ok_iff.mp hok
  obtain ⟨n₁, hver⟩ := tr.sentVer
  obtain ⟨n₂, hecho⟩ := tr.sentEcho
  obtain ⟨n₃, hinit⟩ := tr.sentInit
  obtain ⟨noise, topology, hfew, hdel₄, hnoise, htopology⟩ := poll_eq_ok_iff.mp tr.gotTopology
  obtain ⟨htop, -⟩ := ctrlMatch_eq_some.mp htopology
  obtain ⟨others, reply, c, hdel₆, -, -, hothers, hc, hreply⟩ := polls_eq_ok_iff.mp tr.gotInit
  obtain ⟨hcr, -⟩ := ctrlMatch_eq_some.mp hc
  have hdel₂ : Delivers s.frames tr.t₁ [tr.hello] tr.t₂ := .cons tr.gotHello (.nil _)
  have hbox₁ := (Scripted.sendFrame_withInbox hver []).2
  have hbox₃ := (Scripted.sendFrame_withInbox hecho []).2
  have hbox₅ := (Scripted.sendFrame_withInbox hinit []).2
  rw [hcr] at hreply hc
  rw [htop] at htopology
  refine ⟨tr.helloFrame.localBt, tr.hello, noise, topology, others, reply, tr.t₆.inbox,
    ⟨?_, ⟨_, tr.parsed, rfl⟩, hnoise, htopology, not_isInitReply_of_none hothers,
      isInitReply_of_matches hc hreply⟩, ?_⟩
  · rw [← hbox₁, (Scripted.inbox_of_delivers hdel₂).1, ← hbox₃, (Scripted.inbox_of_delivers hdel₄).1,
      ← hbox₅, (Scripted.inbox_of_delivers hdel₆).1]
    simp only [List.map_append, List.map_cons, List.map_nil, List.append_assoc, List.cons_append,
      List.nil_append]
  · intro others' hother
    -- the same trace, with what is still to come exchanged up to the init reply
    let box₄ := (others' ++ [reply]).map Except.ok ++ tr.t₆.inbox
    let box₂ := (noise ++ [topology]).map Except.ok ++ box₄
    have hstart : (tr.hello :: noise ++ topology :: others' ++ [reply]).map Except.ok ++ tr.t₆.inbox
        = [tr.hello].map Except.ok ++ box₂ := by
      simp only [box₂, box₄, List.map_append, List.map_cons, List.map_nil, List.append_assoc,
        List.cons_append, List.nil_append]
    have hello' : s.frames (tr.t₁.withInbox ([tr.hello].map Except.ok ++ box₂))
        = (.ok tr.hello, tr.t₂.withInbox box₂) := by
      cases Scripted.delivers_instead hdel₂ [tr.hello] box₂ with
      | cons hnext hnil =>
        cases hnil
        exact hnext
    have htopology' : poll s.frames (ctrlMatch 0x0005) 12 (tr.t₃.withInbox box₂)
        = (.ok topology, tr.t₄.withInbox box₄) :=
      poll_found (Scripted.delivers_instead hdel₄ _ box₄) hnoise htopology hfew
    have hinit' : polls s.frames (ctrlMatch 0x0001) 12
        (initMatch (succPktId s.pcktid) tr.helloFrame.localBt) 16 (tr.t₅.withInbox box₄)
        = (.ok tr.initReply, tr.t₆) :=
      polls_eq_ok_iff.mpr ⟨others', reply, reply, Scripted.delivers_instead hdel₆ _ tr.t₆.inbox,
        hother.gaps, hother.few, initMatch_eq_none_of_not hother.foreign, hc, hreply⟩
    rw [hstart, handshakeAndLogon_eq_ok_iff]
    exact ⟨⟨tr.hello, tr.helloFrame, topology, tr.initReply, tr.accepted,
      ⟨n₁, (Scripted.sendFrame_withInbox hver _).1⟩, hello', tr.parsed, tr.control, tr.long,
      tr.firmware, ⟨n₂, (Scripted.sendFrame_withInbox hecho box₂).1⟩, htopology',
      ⟨n₃, (Scripted.sendFrame_withInbox hinit box₄).1⟩, hinit', tr.sentLogoff, tr.sentLogon,
      tr.loggedOn⟩⟩

def scriptedSession (inverterBt : BtAddr) (replies : List (List UInt8)) : Session Scripted :=
  newWithAppSerial ⟨replies.map .ok, [], []⟩ ⟨inverterBt, .fill 2, "0000", .user, 1000⟩ 900000000

theorem scripted_handshake (inverterBt : BtAddr) :
    ∃ s', (handshakeAndLogon 0).run (scriptedSession inverterBt handshakeReplies) = .ok () s' := by
  have hanswered := @handshake_answered _ _
    (fun rs (t : Scripted) => t.inbox = rs.map .ok ∧ t.outcomes = [])
    (scriptedSession inverterBt handshakeReplies) 0 ?_ ?_ rfl ⟨rfl, rfl⟩
  · obtain ⟨s', tr, -⟩ := hanswered
    exact ⟨s', handshakeAndLogon_eq_ok_iff.mpr ⟨tr⟩⟩
  · rintro rs ⟨inbox, outcomes, sent⟩ data ⟨rfl, rfl⟩
    exact ⟨_, _, rfl, rfl, rfl⟩
  · rintro r rs ⟨inbox, outcomes, sent⟩ ⟨rfl, rfl⟩
    exact ⟨_, rfl, rfl, rfl⟩

theorem init_phase_noninterference_answered :
    ∃ s', (handshakeAndLogon 0).run (scriptedSession (.fill 1) handshakeReplies) = .ok () s' ∧
      ∃ targetBt hello noise topology others reply rest,
        InitPhase (scriptedSession (.fill 1) handshakeReplies) targetBt hello noise topology others
          reply rest ∧
        ∀ others', Tolerable 1 targetBt others' →
          (handshakeAndLogon 0).run ((scriptedSession (.fill 1) handshakeReplies).withInbox
            ((hello :: noise ++ topology :: others' ++ [reply]).map .ok ++ rest)) = .ok () s' :=
  have ⟨s', hok⟩ := scripted_handshake (.fill 1)
  ⟨s', hok, init_phase_noninterference hok⟩

end Session

end HassSma
