/-
  The life of a session (`handshake_and_logon`, the queries, `close`, `graceful_close` in
  `inverter-client/src/session.rs`), over any sequence of calls and any behaviour of the transport.

  The transport is recorded, so each call comes with the list of what it sent and received.

  1. **Frames by their command word** — `commandOf`: what the session sends is told apart as a reader
     of the wire would do it.
  2. **The handshake** — `handshake_spec`: it sends no query, and ends logged in exactly when it
     returns `Ok`, having received an accepting reply to the logon it sent.  Every way out in the
     middle goes through one relation, `Unlogged`, that each step of the handshake keeps.
  3. **One call** — `step_invariant` for what a logged-in state owes to the past, `logoffs_step` for
     the LOGOFFs.
  4. **Whole runs** — `lifecycle_safe`, by the two rules of `Lib.History`.
-/
import HassSma.Client.Dispatch
import HassSma.Client.Logon
import HassSma.Lib.History

namespace HassSma

open Bytes Fallible Polling History

namespace Session

variable {T : Type} [Transport T]

/-! ## Frames by their command word -/

/-- The command word of a well-formed L2 frame. -/
def commandOf (raw : List UInt8) : Option UInt32 :=
  (l2Of raw).map fun p => readU32 (slice p.2 0 4)

def logonCommand : UInt32 := 0xFFFD040C
def logoffCommand : UInt32 := 0xFFFD010E

/-- The command words of range queries and event-log queries. -/
def IsQueryCommand (word : UInt32) : Prop :=
  word = eventLogCommand ∨ ∃ kind : QueryKind, word = kind.opcode.1

/-- A query or event-log frame. -/
def IsQueryFrame (raw : List UInt8) : Prop := ∃ word, commandOf raw = some word ∧ IsQueryCommand word

theorem commandOf_l2Wire (localBt : BtAddr) (hdr : L2Header) (word : UInt32) {args : List UInt8}
    (hlen : args.length ≤ 31000) :
    commandOf (l2Wire localBt (encodeL2 hdr (writeU32 word ++ args))) = some word := by
  have hbody : (writeU32 word ++ args).length ≤ 32000 := by
    rw [List.length_append, length_writeU32]
    omega
  have hword : slice (writeU32 word ++ args) 0 4 = writeU32 word := rfl
  rw [commandOf, l2Of_l2Wire localBt hdr hbody, Option.map_some, hword, readU32_writeU32]

theorem not_isQueryFrame_l2Wire (localBt : BtAddr) (hdr : L2Header) {word : UInt32}
    {args : List UInt8} (hlen : args.length ≤ 31000) (hword : ¬ IsQueryCommand word) :
    ¬ IsQueryFrame (l2Wire localBt (encodeL2 hdr (writeU32 word ++ args))) := by
  rintro ⟨word', hcommand, hquery⟩
  rw [commandOf_l2Wire localBt hdr word hlen] at hcommand
  obtain rfl := Option.some.inj hcommand
  exact hword hquery

/-- An L1-only frame carries no L2 packet. -/
theorem l2Of_wire_l1Only {m : Frame} (hkind : m.kind = .l1Only) (hshape : m.WellShaped)
    (hlen : m.payload.length ≤ 32000) : l2Of m.wire = none := by
  have hwire : m.wire.length < 65536 := by
    rw [Frame.length_wire_l1Only hkind]
    omega
  rw [l2Of, Frame.parse_wire hshape hwire]
  simp only
  rw [if_pos (by rw [hkind]; decide)]

theorem not_isQueryFrame_of_no_l2 {raw : List UInt8} (h : l2Of raw = none) : ¬ IsQueryFrame raw := by
  rintro ⟨word, hcommand, -⟩
  rw [commandOf, h] at hcommand
  nomatch hcommand

/-- None of the words of the handshake and the closing is that of a query. -/
theorem not_isQueryCommand {word : UInt32}
    (h : word = 0x00000200 ∨ word = logoffCommand ∨ word = logonCommand) :
    ¬ IsQueryCommand word := by
  rintro (rfl | ⟨kind, rfl⟩)
  · revert h
    decide
  · revert h
    cases kind <;> decide

/-! ## The frames of the handshake -/

theorem l2Of_verWire : l2Of verWire = none :=
  @l2Of_wire_l1Only
    ⟨.l1Only, .fill 0, ⟨[1, 0, 0, 0, 0, 0], rfl⟩, 0x0201, [0x76, 0x65, 0x72, 0x0D, 0x0A]⟩ rfl
    (by constructor <;> decide) (by decide)

theorem l2Of_echoWire (inverterBt : BtAddr) (netId : UInt8) :
    l2Of (echoWire inverterBt netId) = none := by
  refine @l2Of_wire_l1Only
    ⟨.l1Only, .fill 0, inverterBt, 0x0002, writeU32 0x00700400 ++ [netId] ++ writeU32 0 ++ writeU32 1⟩
    rfl ⟨?_, ?_⟩ (show 13 ≤ 32000 by decide)
  · rintro ⟨t, ht⟩
    exact absurd (List.cons.inj ht).1 (by decide)
  · rintro ⟨t, ht⟩
    exact absurd (List.cons.inj ht).1 (by decide)

theorem not_isQueryFrame_verWire : ¬ IsQueryFrame verWire := not_isQueryFrame_of_no_l2 l2Of_verWire

theorem not_isQueryFrame_echoWire (inverterBt : BtAddr) (netId : UInt8) :
    ¬ IsQueryFrame (echoWire inverterBt netId) :=
  not_isQueryFrame_of_no_l2 (l2Of_echoWire inverterBt netId)

theorem not_isQueryFrame_initBody (localBt : BtAddr) (pktId : UInt16) (appSerial : UInt32) :
    ¬ IsQueryFrame (l2Wire localBt (buildInitBody pktId appSerial)) := by
  rw [buildInitBody, List.append_assoc]
  exact not_isQueryFrame_l2Wire localBt _ (by decide) (not_isQueryCommand (.inl rfl))

theorem commandOf_logoffBody (localBt : BtAddr) (pktId : UInt16) (appSerial : UInt32) :
    commandOf (l2Wire localBt (buildLogoffBody pktId appSerial)) = some logoffCommand :=
  commandOf_l2Wire localBt _ logoffCommand (by decide)

theorem not_isQueryFrame_logoffBody (localBt : BtAddr) (pktId : UInt16) (appSerial : UInt32) :
    ¬ IsQueryFrame (l2Wire localBt (buildLogoffBody pktId appSerial)) :=
  not_isQueryFrame_l2Wire localBt _ (by decide) (not_isQueryCommand (.inr (.inl rfl)))

theorem not_isQueryFrame_logonBody (localBt : BtAddr) (pwd : String) (group : UserGroup)
    (pktId : UInt16) (appSerial nowEpoch : UInt32) :
    ¬ IsQueryFrame (l2Wire localBt (buildLogonBody pwd group pktId appSerial nowEpoch)) := by
  rw [buildLogonBody]
  simp only [List.append_assoc]
  exact not_isQueryFrame_l2Wire localBt _ (by simp) (not_isQueryCommand (.inr (.inr rfl)))

/-! ## What a step of the handshake keeps -/

/-- The log has grown by these events. -/
def Logged (s : Session (Recorder T)) (io : List IoEvent) (s' : Session (Recorder T)) : Prop :=
  s'.transport.log = s.transport.log ++ io

/-- No query frame among the frames sent. -/
def Quiet (io : List IoEvent) : Prop := ∀ data result, .sent data result ∈ io → ¬ IsQueryFrame data

/-- From `s` to `s'` no query was sent, and nobody was logged in. -/
def Unlogged (s s' : Session (Recorder T)) : Prop :=
  (∃ io, Logged s io s' ∧ Quiet io) ∧ (s.state ≠ .loggedIn → s'.state ≠ .loggedIn)

omit [Transport T] in
theorem Logged.trans {s s' s'' : Session (Recorder T)} {io io' : List IoEvent}
    (h : Logged s io s') (h' : Logged s' io' s'') : Logged s (io ++ io') s'' := by
  unfold Logged at *
  rw [h', h, List.append_assoc]

omit [Transport T] in
theorem Logged.unique {s s' : Session (Recorder T)} {io io' : List IoEvent} (h : Logged s io s')
    (h' : Logged s io' s') : io = io' :=
  List.append_cancel_left (h.symm.trans h')

omit [Transport T] in
theorem eventsSince_of_logged {s s' : Session (Recorder T)} {io : List IoEvent}
    (h : Logged s io s') : eventsSince s s' = io := by
  rw [eventsSince, h, List.drop_left]

theorem Quiet.append {io io' : List IoEvent} (h : Quiet io) (h' : Quiet io') :
    Quiet (io ++ io') := by
  intro data result hmem
  rcases List.mem_append.mp hmem with hmem | hmem
  · exact h data result hmem
  · exact h' data result hmem

omit [Transport T] in
theorem unlogged_of_log_eq {s s' : Session (Recorder T)}
    (hlog : s'.transport.log = s.transport.log) (hstate : s.state ≠ .loggedIn → s'.state ≠ .loggedIn) :
    Unlogged s s' :=
  ⟨⟨[], by rw [Logged, hlog, List.append_nil], fun _ _ h => nomatch h⟩, hstate⟩

omit [Transport T] in
theorem unlogged_refl (s : Session (Recorder T)) : Unlogged s s := unlogged_of_log_eq rfl id

omit [Transport T] in
theorem unlogged_trans {s s' s'' : Session (Recorder T)} :
    Unlogged s s' → Unlogged s' s'' → Unlogged s s'' := by
  rintro ⟨⟨io, hlog, hquiet⟩, hstate⟩ ⟨⟨io', hlog', hquiet'⟩, hstate'⟩
  exact ⟨⟨io ++ io', hlog.trans hlog', hquiet.append hquiet'⟩, hstate' ∘ hstate⟩

/-- Sending anything but a query. -/
theorem unlogged_sendFrame {data : List UInt8} (hdata : ¬ IsQueryFrame data) :
    Keeps Unlogged (sendFrame data : SessionM (Recorder T) Nat) := by
  intro s
  rw [final_sendFrame]
  refine ⟨⟨_, Recorder.sendFrame_log s.transport data, ?_⟩, id⟩
  intro data' result hmem
  rw [List.mem_singleton, IoEvent.sent.injEq] at hmem
  rw [hmem.1]
  exact hdata

/-- Receiving sends nothing. -/
theorem unlogged_recvFrame (phase : String) :
    Keeps Unlogged (recvFrame phase : SessionM (Recorder T) (List UInt8)) := by
  intro s
  rw [final_recvFrame]
  refine ⟨⟨_, Recorder.recvFrame_log s.transport s.cfg.timeoutMs, ?_⟩, id⟩
  intro data result hmem
  rw [List.mem_singleton] at hmem
  nomatch hmem

theorem unlogged_recvUntilL1Ctrl (wantCtrl : UInt16) (phase : String) :
    Keeps Unlogged (recvUntilL1Ctrl wantCtrl phase : SessionM (Recorder T) _) :=
  keeps_recvUntilL1Ctrl unlogged_refl unlogged_trans unlogged_recvFrame wantCtrl phase

theorem unlogged_recvInitFromTarget (wantPktId : UInt16) (targetBt : BtAddr) :
    Keeps Unlogged (recvInitFromTarget wantPktId targetBt : SessionM (Recorder T) _) :=
  keeps_recvInitFromTarget unlogged_refl unlogged_trans unlogged_recvFrame wantPktId targetBt

theorem unlogged_recvLogonReply (pktId : UInt16) :
    Keeps Unlogged (recvLogonReply pktId : SessionM (Recorder T) _) :=
  keeps_recvLogonReply unlogged_refl unlogged_trans unlogged_recvFrame pktId

/-! ## The accepting reply -/

/-- An accepting reply to the logon with this packet id is among the frames received. -/
def Accepted (pktId : UInt16) (io : List IoEvent) : Prop :=
  ∃ raw, .received (.ok raw) ∈ io ∧ IsLogonReply pktId raw 0

theorem recvLogonReply_accepted {pktId : UInt16} {reply : L2Reply} {s s' : Session (Recorder T)}
    (h : (recvLogonReply pktId).run s = .ok reply s') :
    ∃ io, Logged s io s' ∧ Accepted pktId io := by
  obtain ⟨raws, raw, t, hdel, rfl, hraw⟩ := recvLogonReply_delivers h
  exact ⟨_, Recorder.delivers_log hdel, raw, List.mem_map.mpr ⟨raw, by simp, rfl⟩, hraw⟩

/-! ## The handshake -/

/-- A logon went out and was accepted: behind the logon frame, a reply to it with code zero. -/
def LoggedOn (io : List IoEvent) : Prop :=
  ∃ localBt pwd group pktId appSerial nowEpoch result before after,
    io = before ++ .sent (l2Wire localBt (buildLogonBody pwd group pktId appSerial nowEpoch)) result
      :: after ∧ Accepted pktId after

/-- How a part of the handshake up to its end may go: it returns logged in, with an accepted logon
    in the log, or it fails and nobody is logged in.  No query is sent either way. -/
def EndsHandshake (x : SessionM (Recorder T) Unit) : Prop :=
  ∀ s, s.state ≠ .loggedIn → ∃ io, Logged s io (final (x.run s)) ∧ Quiet io ∧
    match value (x.run s) with
    | .ok _ => (final (x.run s)).state = .loggedIn ∧ LoggedOn io
    | .error _ => (final (x.run s)).state ≠ .loggedIn

theorem LoggedOn.append {io io' : List IoEvent} (h : LoggedOn io') : LoggedOn (io ++ io') := by
  obtain ⟨localBt, pwd, group, pktId, appSerial, nowEpoch, result, before, after, rfl, hacc⟩ := h
  refine ⟨localBt, pwd, group, pktId, appSerial, nowEpoch, result, io ++ before, after, ?_, hacc⟩
  rw [List.append_assoc]

omit [Transport T] in
/-- A step that logs nobody in may stand in front. -/
theorem EndsHandshake.after {α : Type} {x : SessionM (Recorder T) α}
    {f : α → SessionM (Recorder T) Unit} (hx : Keeps Unlogged x) (hf : ∀ a, EndsHandshake (f a)) :
    EndsHandshake (x >>= f) := by
  intro s hs
  obtain ⟨⟨io, hlog, hquiet⟩, hstate⟩ := hx s
  rw [EStateM.run_bind]
  cases hrun : x.run s with
  | error e s₁ =>
    rw [hrun] at hlog hstate
    exact ⟨io, hlog, hquiet, hstate hs⟩
  | ok a s₁ =>
    rw [hrun] at hlog hstate
    obtain ⟨io', hlog', hquiet', hend⟩ := hf a s₁ (hstate hs)
    refine ⟨io ++ io', hlog.trans hlog', hquiet.append hquiet', ?_⟩
    simp only
    cases hvalue : value ((f a).run s₁) with
    | error e =>
      rw [hvalue] at hend
      exact hend
    | ok u =>
      rw [hvalue] at hend
      exact ⟨hend.1, hend.2.append⟩

/-- The logon itself: its frame out, the reply loop, and then the state. -/
theorem endsHandshake_logon (localBt : BtAddr) (pwd : String) (group : UserGroup) (pktId : UInt16)
    (appSerial nowEpoch : UInt32) :
    EndsHandshake (T := T) (do
      let _ ← sendFrame (l2Wire localBt (buildLogonBody pwd group pktId appSerial nowEpoch))
      let _ ← recvLogonReply pktId
      modify fun s => { s with state := .loggedIn }) := by
  intro s hs
  obtain ⟨⟨io₁, hlog₁, hquiet₁⟩, hstate₁⟩ := unlogged_sendFrame (T := T)
    (not_isQueryFrame_logonBody localBt pwd group pktId appSerial nowEpoch) s
  have hevent := Recorder.sendFrame_log s.transport
    (l2Wire localBt (buildLogonBody pwd group pktId appSerial nowEpoch))
  rw [EStateM.run_bind, run_sendFrame] at *
  rcases hsend : Transport.sendFrame s.transport
    (l2Wire localBt (buildLogonBody pwd group pktId appSerial nowEpoch)) with ⟨e | k, t⟩
  · rw [hsend] at hlog₁ hstate₁
    exact ⟨io₁, hlog₁, hquiet₁, hstate₁ hs⟩
  · rw [hsend] at hlog₁ hstate₁ hevent
    simp only at hlog₁ hstate₁ hevent ⊢
    have hio₁ := hlog₁.unique hevent
    obtain ⟨⟨io₂, hlog₂, hquiet₂⟩, hstate₂⟩ :=
      unlogged_recvLogonReply pktId { s with transport := t }
    rw [EStateM.run_bind]
    cases hrecv : (recvLogonReply pktId).run { s with transport := t } with
    | error e s₂ =>
      rw [hrecv] at hlog₂ hstate₂
      exact ⟨io₁ ++ io₂, hlog₁.trans hlog₂, hquiet₁.append hquiet₂, hstate₂ (hstate₁ hs)⟩
    | ok reply s₂ =>
      rw [hrecv] at hlog₂
      obtain ⟨io', hlog', hacc⟩ := recvLogonReply_accepted hrecv
      obtain rfl := hlog₂.unique hlog'
      refine ⟨io₁ ++ io₂, hlog₁.trans hlog₂, hquiet₁.append hquiet₂, rfl, ?_⟩
      rw [hio₁]
      exact ⟨localBt, pwd, group, pktId, appSerial, nowEpoch, _, [], io₂, rfl, hacc⟩

omit [Transport T] in
theorem unlogged_ensure (c : Prop) [Decidable c] (e : SessionError) :
    Keeps Unlogged (ensure c e : SessionM (Recorder T) Unit) := by
  unfold ensure
  split
  · exact keeps_pure unlogged_refl _
  · exact keeps_throw unlogged_refl _

omit [Transport T] in
theorem unlogged_parseFrame (raw : List UInt8) :
    Keeps Unlogged (parseFrame raw : SessionM (Recorder T) Frame) := by
  unfold parseFrame
  split
  · exact keeps_pure unlogged_refl _
  · exact keeps_throw unlogged_refl _

omit [Transport T] in
theorem unlogged_nextPcktid : Keeps Unlogged (nextPcktid : SessionM (Recorder T) UInt16) :=
  fun _ => unlogged_of_log_eq rfl id

/-- **The handshake** sends no query, and it logs in exactly if its logon was accepted. -/
theorem handshake_spec (nowEpoch : UInt32) (s : Session (Recorder T)) :
    ∃ io, Logged s io (final ((handshakeAndLogon nowEpoch).run s)) ∧ Quiet io ∧
      match value ((handshakeAndLogon nowEpoch).run s) with
      | .ok _ => (final ((handshakeAndLogon nowEpoch).run s)).state = .loggedIn ∧ LoggedOn io
      | .error _ => (final ((handshakeAndLogon nowEpoch).run s)).state ≠ .loggedIn := by
  -- whatever the state was, the first step leaves it
  let start : Session (Recorder T) := { s with state := .handshaking }
  have hstart : (modify fun s => { s with state := .handshaking } : SessionM (Recorder T) PUnit).run s
      = .ok () start := rfl
  rw [handshakeAndLogon, bind_of_ok hstart]
  refine (EndsHandshake.after (unlogged_sendFrame not_isQueryFrame_verWire) fun _ => ?_) start nofun
  refine .after (unlogged_recvFrame _) fun helloBytes => ?_
  refine .after (unlogged_parseFrame _) fun hello => ?_
  refine .after (unlogged_ensure _ _) fun _ => ?_
  refine .after (unlogged_ensure _ _) fun _ => ?_
  refine .after (unlogged_ensure _ _) fun _ => ?_
  refine .after (unlogged_sendFrame (not_isQueryFrame_echoWire _ _)) fun _ => ?_
  refine .after (unlogged_recvUntilL1Ctrl _ _) fun _ => ?_
  refine .after (keeps_modify fun s => unlogged_of_log_eq rfl fun _ => nofun) fun _ => ?_
  refine .after unlogged_nextPcktid fun initId => ?_
  refine .after (keeps_get unlogged_refl) fun config => ?_
  refine .after (unlogged_sendFrame (not_isQueryFrame_initBody _ _ _)) fun _ => ?_
  refine .after (unlogged_recvInitFromTarget _ _) fun initReply => ?_
  refine .after (keeps_modify fun s => unlogged_of_log_eq rfl id) fun _ => ?_
  refine .after unlogged_nextPcktid fun logoffId => ?_
  refine .after (unlogged_sendFrame (not_isQueryFrame_logoffBody _ _ _)) fun _ => ?_
  refine .after unlogged_nextPcktid fun logonId => ?_
  exact endsHandshake_logon _ _ _ _ _ _

/-! ## Closing -/

/-- A frame that asks the inverter to log off, sent or only attempted. -/
def isLogoff : IoEvent → Bool
  | .sent data _ => commandOf data = some logoffCommand
  | _ => false

theorem run_close (s : Session T) :
    (close : SessionM T Unit).run s =
      match Transport.close s.transport with
      | (.ok _, t) => .ok () { s with state := .disconnected, transport := t }
      | (.error e, t) => .error (.transport e) { s with state := .disconnected, transport := t } := rfl

/-- The session ends disconnected, whether the transport closes or not. -/
theorem final_close (s : Session T) :
    final (close.run s)
      = { s with state := .disconnected, transport := (Transport.close s.transport).2 } := by
  rw [run_close]
  rcases Transport.close s.transport with ⟨e | u, t⟩ <;> rfl

theorem close_spec (s : Session (Recorder T)) :
    ∃ result, Logged s [.closed result] (final (close.run s)) ∧
      (final (close.run s)).state = .disconnected := by
  rw [final_close]
  exact ⟨_, Recorder.close_log s.transport, rfl⟩

/-- A graceful close ends disconnected; it asks for a log-off exactly if it was logged in. -/
theorem gracefulClose_spec (s : Session (Recorder T)) :
    ∃ io, Logged s io (final (gracefulClose.run s)) ∧ Quiet io ∧
      (final (gracefulClose.run s)).state = .disconnected ∧
      io.countP isLogoff = if s.state = .loggedIn then 1 else 0 := by
  rw [gracefulClose, bind_of_ok (EStateM.run_get s)]
  by_cases hin : s.state = .loggedIn
  · rw [if_pos hin, if_pos hin]
    let data := l2Wire s.cfg.localBt (buildLogoffBody (succPktId s.pcktid) s.appSerial)
    rw [bind_of_ok (run_nextPcktid s), bind_of_ok (run_attempt _ _)]
    have hsent : Logged s [.sent data (Transport.sendFrame s.transport data).1]
        (final ((sendFrame data).run s.advance)) := by
      rw [final_sendFrame]
      exact Recorder.sendFrame_log s.transport data
    obtain ⟨result, hclosed, hstate⟩ := close_spec (final ((sendFrame data).run s.advance))
    refine ⟨_, hsent.trans hclosed, ?_, hstate, ?_⟩
    · intro data' result' hmem
      rw [List.singleton_append, List.mem_cons, List.mem_singleton] at hmem
      rcases hmem with hmem | hmem
      · rw [(IoEvent.sent.inj hmem).1]
        exact not_isQueryFrame_logoffBody _ _ _
      · nomatch hmem
    · have hlogoff : isLogoff (.sent data (Transport.sendFrame s.transport data).1) = true :=
        decide_eq_true (commandOf_logoffBody _ _ _)
      rw [List.singleton_append, List.countP_cons_of_pos hlogoff]
      rfl
  · rw [if_neg hin, if_neg hin]
    obtain ⟨result, hclosed, hstate⟩ := close_spec s
    refine ⟨_, hclosed, ?_, hstate, rfl⟩
    intro data' result' hmem
    rw [List.mem_singleton] at hmem
    nomatch hmem

/-! ## Calls -/

inductive Call where
  | handshakeAndLogon (nowEpoch : UInt32)
  | request (r : Request)
  | close
  | gracefulClose
  deriving DecidableEq

/-- What a call returns, and the session behind it. -/
def callStep : Call → Session (Recorder T) → Except SessionError Unit × Session (Recorder T)
  | .handshakeAndLogon nowEpoch, s => outcome (Session.handshakeAndLogon nowEpoch) s
  | .request r, s => outcome r.call s
  | .close, s => outcome Session.close s
  | .gracefulClose, s => outcome Session.gracefulClose s

/-- A call in a history of one session. -/
abbrev CallEntry (T : Type) := Entry Call (Session (Recorder T)) (Except SessionError Unit)

namespace CallEntry

/-- What the call sent and received. -/
def io (e : CallEntry T) : List IoEvent := eventsSince e.before e.after

/-- A query or event-log frame went out, or was attempted. -/
def SendsQuery (e : CallEntry T) : Prop :=
  ∃ data result, .sent data result ∈ io e ∧ IsQueryFrame data

def IsRequest (e : CallEntry T) : Prop := ∃ r, e.call = .request r

def LogsOn (e : CallEntry T) : Prop := (∃ nowEpoch, e.call = .handshakeAndLogon nowEpoch) ∧ e.result = .ok ()

/-- The log-offs a graceful close attempted. -/
def logoffs (e : CallEntry T) : Nat := if e.call = .gracefulClose then (io e).countP isLogoff else 0

end CallEntry

theorem CallEntry.io_of_logged {c : Call} {s : Session (Recorder T)} {io : List IoEvent}
    (h : Logged s io (callStep c s).2) : CallEntry.io (entry callStep c s) = io :=
  eventsSince_of_logged h

/-! ## One call -/

/-- A request on a session that is not logged in does nothing. -/
theorem run_call_not_logged_in {s : Session T} (h : s.state ≠ .loggedIn) (r : Request) :
    ∃ e, (r.call.run s : EStateM.Result _ _ (List UInt8)) = .error e s ∧
      (e = .protocol "query-not-logged-in" ∨ e = .protocol "event-log-not-logged-in") := by
  cases r with
  | query kind =>
    refine ⟨.protocol "query-not-logged-in", ?_, .inl rfl⟩
    rw [Request.call, query, bind_of_ok (EStateM.run_get s)]
    exact run_queryForDevice_not_logged_in h _ _ _
  | queryForDevice susyId serial kind =>
    exact ⟨_, run_queryForDevice_not_logged_in h _ _ _, .inl rfl⟩
  | queryEventLogForDevice susyId serial startUnix endUnix =>
    refine ⟨.protocol "event-log-not-logged-in", ?_, .inr rfl⟩
    rw [Request.call, queryEventLogForDevice, bind_of_ok (EStateM.run_get s)]
    exact bind_of_error (run_ensure_not h _ s) _

/-- No request changes the state enum. -/
theorem state_call (s : Session T) (r : Request) : (final (r.call.run s)).state = s.state := by
  by_cases h : s.state = .loggedIn
  · obtain ⟨t, hfinal⟩ := final_call h r
    rw [hfinal]
    rfl
  · obtain ⟨e, hrun, -⟩ := run_call_not_logged_in h r
    rw [hrun, final_error]

/-- The last handshake before has its logon accepted, and nobody closed the session since. -/
def Authorised (past : List (CallEntry T)) : Prop :=
  ∃ before logon after, past = before ++ logon :: after ∧
    (∃ nowEpoch, logon.call = .handshakeAndLogon nowEpoch) ∧ LoggedOn (CallEntry.io logon) ∧
    ∀ e ∈ after, CallEntry.IsRequest e

/-- What being logged in says about the past. -/
def Earned (past : List (CallEntry T)) (s : Session (Recorder T)) : Prop :=
  s.state = .loggedIn → Authorised past

/-- **One call**: whoever is logged in behind it has earned it. -/
theorem step_invariant (past : List (CallEntry T)) (c : Call) (s : Session (Recorder T))
    (h : Earned past s) : Earned (past ++ [entry callStep c s]) (entry callStep c s).after := by
  intro hin
  cases c with
  | handshakeAndLogon nowEpoch =>
    obtain ⟨io, hlog, -, hend⟩ := handshake_spec nowEpoch s
    refine ⟨past, _, [], rfl, ⟨nowEpoch, rfl⟩, ?_, fun e he => nomatch he⟩
    rw [CallEntry.io_of_logged hlog]
    cases hvalue : value ((handshakeAndLogon nowEpoch).run s) with
    | ok u =>
      rw [hvalue] at hend
      exact hend.2
    | error e =>
      rw [hvalue] at hend
      exact absurd hin hend
  | request r =>
    have hbefore : s.state = .loggedIn := (state_call s r).symm.trans hin
    obtain ⟨before, logon, after, rfl, hcall, hlogged, hafter⟩ := h hbefore
    refine ⟨before, logon, after ++ [entry callStep (.request r) s], by simp, hcall, hlogged, ?_⟩
    intro e he
    rcases List.mem_append.mp he with he | he
    · exact hafter e he
    · obtain rfl := List.mem_singleton.mp he
      exact ⟨r, rfl⟩
  | close =>
    obtain ⟨result, -, hstate⟩ := close_spec s
    exact nomatch hstate.symm.trans hin
  | gracefulClose =>
    obtain ⟨io, -, -, hstate, -⟩ := gracefulClose_spec s
    exact nomatch hstate.symm.trans hin

/-- A request that is refused leaves no trace. -/
theorem request_refused {s : Session (Recorder T)} (h : s.state ≠ .loggedIn) (r : Request) :
    CallEntry.io (entry callStep (.request r) s) = [] ∧ (entry callStep (.request r) s).after = s := by
  obtain ⟨e, hrun, -⟩ := run_call_not_logged_in h r
  have hafter : (entry callStep (.request r) s).after = s := by
    show final (r.call.run s) = s
    rw [hrun, final_error]
  refine ⟨?_, hafter⟩
  apply CallEntry.io_of_logged
  show Logged s [] (final (r.call.run s))
  rw [hrun, final_error, Logged, List.append_nil]

/-- Only a session that is logged in sends queries. -/
theorem loggedIn_of_sendsQuery {c : Call} {s : Session (Recorder T)}
    (h : CallEntry.SendsQuery (entry callStep c s)) : s.state = .loggedIn := by
  obtain ⟨data, result, hmem, hquery⟩ := h
  cases c with
  | handshakeAndLogon nowEpoch =>
    obtain ⟨io, hlog, hquiet, -⟩ := handshake_spec nowEpoch s
    rw [CallEntry.io_of_logged hlog] at hmem
    exact absurd hquery (hquiet data result hmem)
  | request r =>
    by_contra hout
    rw [(request_refused hout r).1] at hmem
    nomatch hmem
  | close =>
    obtain ⟨closed, hlog, -⟩ := close_spec s
    rw [CallEntry.io_of_logged hlog, List.mem_singleton] at hmem
    nomatch hmem
  | gracefulClose =>
    obtain ⟨io, hlog, hquiet, -⟩ := gracefulClose_spec s
    rw [CallEntry.io_of_logged hlog] at hmem
    exact absurd hquery (hquiet data result hmem)

/-- A session that is logged in owes the inverter one log-off. -/
def owed (s : Session (Recorder T)) : Nat := if s.state = .loggedIn then 1 else 0

/-- **One call**: a log-off is paid out of what is owed, and only a logon adds to it. -/
theorem logoffs_step (c : Call) (s : Session (Recorder T))
    (h : ¬ CallEntry.LogsOn (entry callStep c s)) :
    CallEntry.logoffs (entry callStep c s) + owed (entry callStep c s).after ≤ owed s := by
  have hfree : c ≠ .gracefulClose → CallEntry.logoffs (entry callStep c s) = 0 :=
    fun hc => if_neg hc
  have hout : (entry callStep c s).after.state ≠ .loggedIn → owed (entry callStep c s).after = 0 :=
    fun hs => if_neg hs
  cases c with
  | handshakeAndLogon nowEpoch =>
    obtain ⟨io, -, -, hend⟩ := handshake_spec nowEpoch s
    have hfailed : (entry callStep (.handshakeAndLogon nowEpoch) s).after.state ≠ .loggedIn := by
      cases hvalue : value ((handshakeAndLogon nowEpoch).run s) with
      | ok u =>
        refine absurd ⟨⟨nowEpoch, rfl⟩, ?_⟩ h
        show (value ((handshakeAndLogon nowEpoch).run s)).map _ = .ok ()
        rw [hvalue]
        rfl
      | error e =>
        rw [hvalue] at hend
        exact hend
    rw [hfree nofun, hout hfailed]
    exact Nat.zero_le _
  | request r =>
    have hsame : owed (entry callStep (.request r) s).after = owed s := by
      rw [owed, owed, show (entry callStep (.request r) s).after.state = s.state from state_call s r]
    rw [hfree nofun, hsame, Nat.zero_add]
  | close =>
    obtain ⟨closed, -, hstate⟩ := close_spec s
    have hclosed : (entry callStep .close s).after.state = .disconnected := hstate
    rw [hfree nofun, hout (by rw [hclosed]; nofun)]
    exact Nat.zero_le _
  | gracefulClose =>
    obtain ⟨io, hlog, -, hstate, hcount⟩ := gracefulClose_spec s
    have hclosed : (entry callStep .gracefulClose s).after.state = .disconnected := hstate
    have hlogoffs : CallEntry.logoffs (entry callStep .gracefulClose s)
        = (CallEntry.io (entry callStep .gracefulClose s)).countP isLogoff := if_pos rfl
    rw [hout (by rw [hclosed]; nofun), hlogoffs, CallEntry.io_of_logged hlog]
    exact hcount.le

/-! ## Whole runs -/

/-- The calls on one session, from its creation on. -/
def lifetime (t : T) (cfg : SessionConfig) (appSerial : UInt32) (calls : List Call) :
    List (CallEntry T) :=
  history callStep calls (newWithAppSerial ⟨t, []⟩ cfg appSerial)

/-- **The life of a session.**  For every sequence of calls on a new session and every transport:
    a query or event-log frame is sent only if the last handshake before it had its logon accepted
    and nobody closed the session since; a request in any other state sends nothing and leaves
    the packet-id counter alone; in any stretch without a successful logon the graceful closes
    attempt at most one LOGOFF, and every one of them ends disconnected. -/
theorem lifecycle_safe (t : T) (cfg : SessionConfig) (appSerial : UInt32) (calls : List Call) :
    (∀ past e future, lifetime t cfg appSerial calls = past ++ e :: future →
        CallEntry.SendsQuery e → Authorised past) ∧
      (∀ e ∈ lifetime t cfg appSerial calls, CallEntry.IsRequest e → e.before.state ≠ .loggedIn →
        CallEntry.io e = [] ∧ e.after.pcktid = e.before.pcktid) ∧
      (∀ past stretch future, lifetime t cfg appSerial calls = past ++ (stretch ++ future) →
        (∀ e ∈ stretch, ¬ CallEntry.LogsOn e) → (stretch.map CallEntry.logoffs).sum ≤ 1) ∧
      ∀ e ∈ lifetime t cfg appSerial calls, e.call = .gracefulClose →
        e.after.state = .disconnected := by
  refine ⟨?_, ?_, ?_, ?_⟩
  · intro past e future hsplit hsends
    have hnew : Earned ([] : List (CallEntry T)) (newWithAppSerial ⟨t, []⟩ cfg appSerial) := nofun
    have hearned := history_before step_invariant hnew hsplit
    have hmem : e ∈ lifetime t cfg appSerial calls := by
      rw [hsplit]
      exact List.mem_append_right past List.mem_cons_self
    rw [eq_entry_of_mem hmem] at hsends
    exact hearned (loggedIn_of_sendsQuery hsends)
  · rintro e he ⟨r, hr⟩ hstate
    have heq := eq_entry_of_mem he
    rw [hr] at heq
    obtain ⟨hio, hafter⟩ := request_refused hstate r
    rw [← heq] at hio hafter
    exact ⟨hio, by rw [hafter]⟩
  · intro past stretch future hsplit hlogs
    obtain ⟨-, cs, s, -, hrest⟩ := history_split hsplit
    obtain ⟨cs', -, -, rfl, -⟩ := history_split hrest.symm
    have hcost := history_cost_le logoffs_step hlogs
    have howed : owed s ≤ 1 := by
      unfold owed
      split <;> decide
    exact Nat.le_trans hcost howed
  · intro e he hcall
    have heq := eq_entry_of_mem he
    rw [hcall] at heq
    obtain ⟨io, -, -, hstate, -⟩ := gracefulClose_spec e.before
    rw [heq]
    exact hstate

def l1Wire (src : BtAddr) (control : UInt16) (payload : List UInt8) : List UInt8 :=
  ((FrameBuilder.newWithKind .l1Only src (.fill 0) control).extend payload).build

/-- What an inverter sends during a handshake that succeeds: hello, topology, the replies to init
    and logon. -/
def handshakeReplies : List (List UInt8) :=
  [l1Wire (.fill 1) 0x0002 [0, 4, 0x70, 0, 1], l1Wire (.fill 1) 0x0005 [],
    l2Wire (.fill 1) (encodeL2 (.init 1 7) []), l2Wire (.fill 1) (encodeL2 (.logon 3 7) [])]

/-- A run that logs in, asks and closes twice: one LOGOFF. -/
example :
    ((lifetime ⟨handshakeReplies ++ [mockReply 7 4 [1]], [], false⟩
        ⟨.fill 1, .fill 2, "0000", .user, 1000⟩ 900000000
        [.handshakeAndLogon 0, .request (.query .spotAcTotalPower), .gracefulClose,
          .gracefulClose]).map
      fun e : CallEntry MockTransport => (e.after.state, CallEntry.logoffs e))
      = [(.loggedIn, 0), (.loggedIn, 0), (.disconnected, 1), (.disconnected, 0)] := by
  decide +kernel

end Session

end HassSma
