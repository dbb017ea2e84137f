/-
  Transports that a session cannot tell apart (`inverter-client/src/session.rs`).

  `TransportsInStep timeoutMs L O`: two transports of which every operation gives the same on both.  `O`
  holds while they are open, `L` at any time.  Receives need `O`: what a closed transport still
  gives is its own business, and no session asks for it, since it receives only behind a send
  that went out or while it is logged in.

  So a session over one goes in step with a session over the other (`SessionsInStep`), one lemma for each
  function, through handshake, queries and closing.  A session has no other way to notice what lies
  below it.
-/
import HassSma.Client.Session
import HassSma.Lib.Lockstep

namespace HassSma

open Bytes Fallible

/-- Each operation gives the same on both transports, and they stay related. -/
structure TransportsInStep {T U : Type} [Transport T] [Transport U] (timeoutMs : UInt64)
    (L O : T → U → Prop) : Prop where
  send : ∀ {t u}, O t u → ∀ data,
    (Transport.sendFrame t data).1 = (Transport.sendFrame u data).1 ∧
      O (Transport.sendFrame t data).2 (Transport.sendFrame u data).2
  recv : ∀ {t u}, O t u →
    (Transport.recvFrame t timeoutMs).1 = (Transport.recvFrame u timeoutMs).1 ∧
      O (Transport.recvFrame t timeoutMs).2 (Transport.recvFrame u timeoutMs).2
  /-- A send that goes out is proof of an open transport. -/
  sendFirst : ∀ {t u}, L t u → ∀ data,
    (Transport.sendFrame t data).1 = (Transport.sendFrame u data).1 ∧
      L (Transport.sendFrame t data).2 (Transport.sendFrame u data).2 ∧
      ∀ n, (Transport.sendFrame t data).1 = .ok n →
        O (Transport.sendFrame t data).2 (Transport.sendFrame u data).2
  close : ∀ {t u}, L t u → (Transport.close t).1 = (Transport.close u).1 ∧
    L (Transport.close t).2 (Transport.close u).2
  ofOpen : ∀ {t u}, O t u → L t u

namespace Session

variable {T U : Type}

/-- Sessions that differ in their transports alone. -/
structure Alike (timeoutMs : UInt64) (R : T → U → Prop) (s : Session T) (v : Session U) : Prop where
  transport : R s.transport v.transport
  timeout : s.cfg.timeoutMs = timeoutMs
  cfg : s.cfg = v.cfg
  state : s.state = v.state
  appSerial : s.appSerial = v.appSerial
  pcktid : s.pcktid = v.pcktid
  inverterSusyId : s.inverterSusyId = v.inverterSusyId
  inverterSerial : s.inverterSerial = v.inverterSerial

/-- Between two calls: alike, and open if they are logged in. -/
structure SessionsInStep (timeoutMs : UInt64) (L O : T → U → Prop) (s : Session T) (v : Session U) :
    Prop where
  alike : Alike timeoutMs L s v
  loggedIn : s.state = .loggedIn → O s.transport v.transport

variable {timeoutMs : UInt64} {L O R : T → U → Prop} {s : Session T} {v : Session U}

theorem Alike.mono (h : Alike timeoutMs O s v) (hOL : ∀ {t u}, O t u → L t u) :
    Alike timeoutMs L s v := { h with transport := hOL h.transport }

/-- The sessions with other transports. -/
theorem Alike.withTransport (h : Alike timeoutMs L s v) {t : T} {u : U} (htu : R t u) :
    Alike timeoutMs R { s with transport := t } { v with transport := u } := { h with transport := htu }

/-! ## While the transport is open -/

theorem lockstep_ensure (c : Prop) [Decidable c] (e : SessionError) :
    Lockstep (Alike timeoutMs O) (ensure c e : SessionM T Unit) (ensure c e : SessionM U Unit) := by
  unfold ensure
  split
  · exact lockstep_pure ()
  · exact lockstep_throw e

theorem lockstep_parseFrame (raw : List UInt8) :
    Lockstep (Alike timeoutMs O) (parseFrame raw : SessionM T Frame) (parseFrame raw : SessionM U Frame) := by
  unfold parseFrame
  cases Frame.parse raw with
  | ok frame => exact lockstep_pure frame
  | error e => exact lockstep_throw _

theorem lockstep_nextPcktid :
    Lockstep (Alike timeoutMs O) (nextPcktid : SessionM T UInt16) (nextPcktid : SessionM U UInt16) := by
  refine lockstep_modifyGet fun s v h => ?_
  have hid : succPktId s.pcktid = succPktId v.pcktid := by rw [h.pcktid]
  exact ⟨hid, { h with pcktid := hid }⟩

theorem lockstep_setState (state : SessionState) :
    Lockstep (Alike timeoutMs O)
      (modify fun s => { s with state := state } : SessionM T PUnit)
      (modify fun s => { s with state := state } : SessionM U PUnit) :=
  lockstep_modifyGet fun _ _ h => ⟨rfl, { h with state := rfl }⟩

variable [Transport T] [Transport U] (hstep : TransportsInStep timeoutMs L O)
include hstep

theorem lockstep_sendFrame (data : List UInt8) :
    Lockstep (Alike timeoutMs O) (sendFrame data : SessionM T Nat) (sendFrame data : SessionM U Nat) := by
  intro s v h
  obtain ⟨hresult, hopen⟩ := hstep.send h.transport data
  show value (sendFrame data s) = value (sendFrame data v) ∧
    Alike timeoutMs O (final (sendFrame data s)) (final (sendFrame data v))
  unfold sendFrame
  cases hs : Transport.sendFrame s.transport data with | mk result t
  cases hv : Transport.sendFrame v.transport data with | mk result' u
  rw [hs, hv] at hresult hopen
  obtain rfl : result = result' := hresult
  cases result with
  | ok n => exact ⟨rfl, h.withTransport hopen⟩
  | error e => exact ⟨rfl, h.withTransport hopen⟩

theorem lockstep_recvFrame (phase : String) :
    Lockstep (Alike timeoutMs O) (recvFrame phase : SessionM T (List UInt8))
      (recvFrame phase : SessionM U (List UInt8)) := by
  intro s v h
  obtain ⟨hresult, hopen⟩ := hstep.recv h.transport
  show value (recvFrame phase s) = value (recvFrame phase v) ∧
    Alike timeoutMs O (final (recvFrame phase s)) (final (recvFrame phase v))
  have htimeout : v.cfg.timeoutMs = timeoutMs := by rw [← h.cfg, h.timeout]
  unfold recvFrame
  rw [h.timeout, htimeout]
  cases hs : Transport.recvFrame s.transport timeoutMs with | mk result t
  cases hv : Transport.recvFrame v.transport timeoutMs with | mk result' u
  rw [hs, hv] at hresult hopen
  obtain rfl : result = result' := hresult
  cases result with
  | ok raw => exact ⟨rfl, h.withTransport hopen⟩
  | error e => exact ⟨rfl, h.withTransport hopen⟩

/-! ### Receive loops -/

theorem lockstep_recvUntilL1CtrlLoop (wantCtrl : UInt16) (phase : String) (attempts : Nat) :
    Lockstep (Alike timeoutMs O) (recvUntilL1CtrlLoop wantCtrl phase attempts : SessionM T (List UInt8))
      (recvUntilL1CtrlLoop wantCtrl phase attempts : SessionM U (List UInt8)) := by
  induction attempts with
  | zero => exact lockstep_throw _
  | succ attempts ih =>
    refine (lockstep_recvFrame hstep phase).bind fun bytes => ?_
    cases Frame.parse bytes with
    | error e => exact ih
    | ok frame =>
      simp only
      split
      · exact lockstep_pure bytes
      · exact ih

theorem lockstep_recvL2WithPktIdLoop (wantPktId : UInt16) (phase : String) (attempts : Nat) :
    Lockstep (Alike timeoutMs O)
      (recvL2WithPktIdLoop wantPktId phase attempts : SessionM T (List UInt8 × L2Reply))
      (recvL2WithPktIdLoop wantPktId phase attempts : SessionM U (List UInt8 × L2Reply)) := by
  induction attempts with
  | zero => exact lockstep_throw _
  | succ attempts ih =>
    refine (lockstep_recvFrame hstep phase).bind fun bytes => ?_
    cases Frame.parse bytes with
    | error e => exact ih
    | ok frame =>
      simp only
      split
      · exact ih
      · cases decodeL2 frame.payload with
        | none => exact ih
        | some reply =>
          simp only
          split
          · exact lockstep_pure _
          · exact ih

theorem lockstep_recvInitFromTargetLoop (wantPktId : UInt16) (targetBt : BtAddr) (attempts : Nat) :
    Lockstep (Alike timeoutMs O)
      (recvInitFromTargetLoop wantPktId targetBt attempts : SessionM T L2Reply)
      (recvInitFromTargetLoop wantPktId targetBt attempts : SessionM U L2Reply) := by
  induction attempts with
  | zero => exact lockstep_throw _
  | succ attempts ih =>
    refine (lockstep_recvUntilL1CtrlLoop hstep 0x0001 "init" 12).bind fun bytes => ?_
    cases Frame.parse bytes with
    | error e => exact ih
    | ok frame =>
      simp only
      cases decodeL2 frame.payload with
      | none => exact ih
      | some reply =>
        simp only
        split
        · exact ih
        · split
          · exact ih
          · exact lockstep_pure _

theorem lockstep_logonReplyLoop (pktId : UInt16) (attempts : Nat) (lastReject : Option L2Reply) :
    Lockstep (Alike timeoutMs O)
      (logonReplyLoop pktId attempts lastReject : SessionM T (Option L2Reply × Option L2Reply))
      (logonReplyLoop pktId attempts lastReject : SessionM U (Option L2Reply × Option L2Reply)) := by
  induction attempts generalizing lastReject with
  | zero => exact lockstep_pure _
  | succ attempts ih =>
    refine (lockstep_recvUntilL1CtrlLoop hstep 0x0001 "logon" 12).attempt.bind fun result => ?_
    cases result with
    | error e => exact lockstep_pure _
    | ok bytes =>
      simp only
      cases Frame.parse bytes with
      | error e => exact ih lastReject
      | ok frame =>
        simp only
        cases decodeL2 frame.payload with
        | none => exact ih lastReject
        | some reply =>
          simp only
          split
          · exact ih lastReject
          · split
            · exact lockstep_pure _
            · exact ih _

theorem lockstep_recvLogonReply (pktId : UInt16) :
    Lockstep (Alike timeoutMs O) (recvLogonReply pktId : SessionM T L2Reply)
      (recvLogonReply pktId : SessionM U L2Reply) := by
  refine (lockstep_logonReplyLoop hstep pktId 16 none).bind fun result => ?_
  obtain ⟨accepted, rejected⟩ := result
  cases accepted with
  | some reply => exact lockstep_pure reply
  | none =>
    cases rejected with
    | some rej =>
      simp only
      split
      · exact lockstep_throw _
      · exact lockstep_throw _
    | none => exact lockstep_throw _

theorem lockstep_collectFragments (pktId : UInt16) (fragments : Nat) (aggregated : List UInt8) :
    Lockstep (Alike timeoutMs O) (collectFragments pktId fragments aggregated : SessionM T (List UInt8))
      (collectFragments pktId fragments aggregated : SessionM U (List UInt8)) := by
  induction fragments generalizing aggregated with
  | zero => exact lockstep_pure aggregated
  | succ fragments ih =>
    refine (lockstep_recvL2WithPktIdLoop hstep pktId "event-log" 16).bind fun result => ?_
    obtain ⟨bytes, reply⟩ := result
    simp only
    split
    · exact lockstep_throw _
    · split
      · exact lockstep_pure _
      · split
        · exact lockstep_pure _
        · exact ih _

/-! ## Calls -/

/-- What is alike over open transports is in step. -/
theorem inStep_of_open (h : Alike timeoutMs O s v) : SessionsInStep timeoutMs L O s v :=
  ⟨h.mono hstep.ofOpen, fun _ => h.transport⟩

/-- A program that goes in step over open transports. -/
theorem lockstep_of_open {α : Type} {x : SessionM T α} {y : SessionM U α}
    (h : Lockstep (Alike timeoutMs O) x y) (hs : Alike timeoutMs O s v) :
    value (x.run s) = value (y.run v) ∧
      SessionsInStep timeoutMs L O (final (x.run s)) (final (y.run v)) := by
  obtain ⟨hvalue, hfinal⟩ := h s v hs
  exact ⟨hvalue, inStep_of_open hstep hfinal⟩

/-- A program that sends first, on a session that is not logged in. -/
theorem lockstep_send_first {α : Type} {x : SessionM T α} {y : SessionM U α}
    (h : Lockstep (Alike timeoutMs O) x y) (data : List UInt8) (hs : Alike timeoutMs L s v)
    (hstate : s.state ≠ .loggedIn) :
    value ((do let _ ← sendFrame data; x).run s) = value ((do let _ ← sendFrame data; y).run v) ∧
      SessionsInStep timeoutMs L O (final ((do let _ ← sendFrame data; x).run s))
        (final ((do let _ ← sendFrame data; y).run v)) := by
  obtain ⟨hresult, htransport, hopen⟩ := hstep.sendFirst hs.transport data
  cases hsent : Transport.sendFrame s.transport data with | mk result t
  cases hsent' : Transport.sendFrame v.transport data with | mk result' u
  rw [hsent, hsent'] at hresult htransport hopen
  obtain rfl : result = result' := hresult
  cases result with
  | ok n =>
    have hrun : (sendFrame data).run s = .ok n { s with transport := t } := by
      show sendFrame data s = _
      rw [sendFrame, hsent]
    have hrun' : (sendFrame data).run v = .ok n { v with transport := u } := by
      show sendFrame data v = _
      rw [sendFrame, hsent']
    rw [bind_of_ok hrun, bind_of_ok hrun']
    exact lockstep_of_open hstep h (hs.withTransport (hopen n rfl))
  | error e =>
    have hrun : (sendFrame data).run s = .error (.transport e) { s with transport := t } := by
      show sendFrame data s = _
      rw [sendFrame, hsent]
    have hrun' : (sendFrame data).run v = .error (.transport e) { v with transport := u } := by
      show sendFrame data v = _
      rw [sendFrame, hsent']
    rw [bind_of_error hrun, bind_of_error hrun']
    exact ⟨rfl, hs.withTransport htransport, fun h => absurd h hstate⟩

theorem lockstep_handshakeAndLogon (nowEpoch : UInt32) :
    Lockstep (SessionsInStep timeoutMs L O) (handshakeAndLogon nowEpoch : SessionM T Unit)
      (handshakeAndLogon nowEpoch : SessionM U Unit) := by
  intro s v h
  -- the first send goes out, or the handshake ends with it
  refine lockstep_send_first hstep ?_ verWire
    (s := { s with state := .handshaking }) (v := { v with state := .handshaking })
    { h.alike with state := rfl } nofun
  refine (lockstep_recvFrame hstep "hello").bind fun helloBytes => ?_
  refine (lockstep_parseFrame helloBytes).bind fun hello => ?_
  refine (lockstep_ensure _ _).bind fun _ => ?_
  refine (lockstep_ensure _ _).bind fun _ => ?_
  refine (lockstep_ensure _ _).bind fun _ => ?_
  refine (lockstep_sendFrame hstep _).bind fun _ => ?_
  refine (lockstep_recvUntilL1CtrlLoop hstep 0x0005 "topology" 12).bind fun _ => ?_
  refine (lockstep_setState .enumerating).bind fun _ => ?_
  refine lockstep_nextPcktid.bind fun initId => ?_
  refine lockstep_get_bind fun s v hsv => ?_
  rw [hsv.cfg, hsv.appSerial]
  refine (lockstep_sendFrame hstep _).bind fun _ => ?_
  refine (lockstep_recvInitFromTargetLoop hstep initId hello.localBt 16).bind fun initReply => ?_
  refine Lockstep.bind (lockstep_modifyGet fun s v hsv => ?_) fun _ => ?_
  · exact ⟨rfl, { hsv with inverterSusyId := rfl, inverterSerial := rfl }⟩
  refine lockstep_nextPcktid.bind fun logoffId => ?_
  refine (lockstep_sendFrame hstep _).bind fun _ => ?_
  refine lockstep_nextPcktid.bind fun logonId => ?_
  refine (lockstep_sendFrame hstep _).bind fun _ => ?_
  refine (lockstep_recvLogonReply hstep logonId).bind fun _ => ?_
  exact lockstep_setState .loggedIn

/-- A call that asks for a logged-in session first. -/
theorem lockstep_logged_in {α : Type} (e : SessionError) {f : Session T → SessionM T α}
    {g : Session U → SessionM U α}
    (h : ∀ s v, Alike timeoutMs O s v → Lockstep (Alike timeoutMs O) (f s) (g v)) :
    Lockstep (SessionsInStep timeoutMs L O)
      (do let s ← get; ensure (s.state = .loggedIn) e; f s : SessionM T α)
      (do let s ← get; ensure (s.state = .loggedIn) e; g s : SessionM U α) := by
  intro s v hsv
  by_cases hstate : s.state = .loggedIn
  · have hstate' : v.state = .loggedIn := by rw [← hsv.alike.state, hstate]
    have hopen : Alike timeoutMs O s v := { hsv.alike with transport := hsv.loggedIn hstate }
    rw [bind_of_ok (EStateM.run_get s), bind_of_ok (EStateM.run_get v), ensure, ensure, if_pos hstate,
      if_pos hstate']
    exact lockstep_of_open hstep (h s v hopen) hopen
  · have hstate' : v.state ≠ .loggedIn := by rwa [← hsv.alike.state]
    rw [bind_of_ok (EStateM.run_get s), bind_of_ok (EStateM.run_get v), ensure, ensure, if_neg hstate,
      if_neg hstate']
    exact ⟨rfl, hsv⟩

theorem lockstep_queryForDevice (susyId : UInt16) (serial : UInt32) (kind : QueryKind) :
    Lockstep (SessionsInStep timeoutMs L O)
      (queryForDevice susyId serial kind : SessionM T (List UInt8))
      (queryForDevice susyId serial kind : SessionM U (List UInt8)) := by
  refine lockstep_logged_in hstep _ fun s v hsv => ?_
  refine lockstep_nextPcktid.bind fun pktId => ?_
  rw [hsv.cfg, hsv.appSerial]
  refine (lockstep_sendFrame hstep _).bind fun _ => ?_
  exact (lockstep_recvL2WithPktIdLoop hstep pktId "query" 16).bind fun _ => lockstep_pure _

theorem lockstep_queryEventLogForDevice (susyId : UInt16) (serial startUnix endUnix : UInt32) :
    Lockstep (SessionsInStep timeoutMs L O)
      (queryEventLogForDevice susyId serial startUnix endUnix : SessionM T (List UInt8))
      (queryEventLogForDevice susyId serial startUnix endUnix : SessionM U (List UInt8)) := by
  refine lockstep_logged_in hstep _ fun s v hsv => ?_
  refine lockstep_nextPcktid.bind fun pktId => ?_
  rw [hsv.cfg, hsv.appSerial]
  refine (lockstep_sendFrame hstep _).bind fun _ => ?_
  exact lockstep_collectFragments hstep pktId 32 []

theorem lockstep_close :
    Lockstep (SessionsInStep timeoutMs L O) (close : SessionM T Unit) (close : SessionM U Unit) := by
  intro s v h
  obtain ⟨hresult, htransport⟩ := hstep.close h.alike.transport
  show value (close s) = value (close v) ∧
    SessionsInStep timeoutMs L O (final (close s)) (final (close v))
  unfold close
  cases hs : Transport.close s.transport with | mk result t
  cases hv : Transport.close v.transport with | mk result' u
  rw [hs, hv] at hresult htransport
  obtain rfl : result = result' := hresult
  have hclosed : Alike timeoutMs L { s with state := .disconnected, transport := t }
      { v with state := .disconnected, transport := u } :=
    { h.alike.withTransport htransport with state := rfl }
  cases result with
  | ok _ => exact ⟨rfl, hclosed, nofun⟩
  | error e => exact ⟨rfl, hclosed, nofun⟩

theorem lockstep_gracefulClose :
    Lockstep (SessionsInStep timeoutMs L O) (gracefulClose : SessionM T Unit)
      (gracefulClose : SessionM U Unit) := by
  intro s v h
  unfold gracefulClose
  rw [bind_of_ok (EStateM.run_get s), bind_of_ok (EStateM.run_get v)]
  by_cases hstate : s.state = .loggedIn
  · have hstate' : v.state = .loggedIn := by rw [← h.alike.state, hstate]
    have hopen : Alike timeoutMs O s v := { h.alike with transport := h.loggedIn hstate }
    rw [if_pos hstate, if_pos hstate']
    -- the LOGOFF goes out or not, and the transport is closed
    have hid : Alike timeoutMs O (final (nextPcktid.run s)) (final (nextPcktid.run v)) :=
      (lockstep_nextPcktid s v hopen).2
    have hsent := lockstep_sendFrame hstep
      (l2Wire v.cfg.localBt (buildLogoffBody (succPktId v.pcktid) v.appSerial)) _ _ hid
    rw [bind_of_ok (show nextPcktid.run s = .ok (succPktId s.pcktid) (final (nextPcktid.run s)) from rfl),
      bind_of_ok (show nextPcktid.run v = .ok (succPktId v.pcktid) (final (nextPcktid.run v)) from rfl),
      bind_of_ok (run_attempt _ _), bind_of_ok (run_attempt _ _), h.alike.cfg, h.alike.appSerial,
      h.alike.pcktid]
    exact lockstep_close hstep _ _ (inStep_of_open hstep hsent.2)
  · have hstate' : v.state ≠ .loggedIn := by rwa [← h.alike.state]
    rw [if_neg hstate, if_neg hstate']
    exact lockstep_close hstep s v h

end Session

end HassSma
