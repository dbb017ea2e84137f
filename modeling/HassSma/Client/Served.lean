/-
  A session with the inverters of a piconet.

  1. **A run of requests** — what earlier packets left in the inbox is passed over, so a request gets
     the answer of the device that it is addressed to (`Attached.call_served`, one request), and by
     induction every request of a run does (`Attached.responses_eq`).
  2. **The handshake** — it gets to the logon with the root's identity (`handshake_reaches_logon`), and
     succeeds if anyone lets the client in (`handshake_admitted`); otherwise it is refused by a device
     (`handshake_refused`).
  3. **Together** — `session_serves`.
-/
import HassSma.Client.Piconet
import HassSma.Lib.Lockstep

namespace HassSma

open Bytes Fallible Polling

/-! ## Requests -/

namespace Session

/-- What the requests of a run return, one after the other. -/
def responses {T : Type} [Transport T] :
    List Request → Session T → List (Except SessionError (List UInt8))
  | [], _ => []
  | r :: rs, s => value (r.call.run s) :: responses rs (final (r.call.run s))

/-- The request goes to one device, not to all of them. -/
def Request.Targeted : Request → Prop
  | .query _ => True
  | .queryForDevice _ serial _ => serial ≠ anySerial
  | .queryEventLogForDevice _ serial _ _ => serial ≠ anySerial

instance : DecidablePred Request.Targeted := fun r =>
  match r with
  | .query _ => inferInstanceAs (Decidable True)
  | .queryForDevice _ serial _ => inferInstanceAs (Decidable (serial ≠ anySerial))
  | .queryEventLogForDevice _ serial _ _ => inferInstanceAs (Decidable (serial ≠ anySerial))

/-- A session that is logged in to the devices of `p` under the root's identity.  What is left in the
    inbox answers an earlier packet, and one receive loop gets through it. -/
structure Attached (p : Piconet) (s : Session Piconet) : Prop where
  loggedIn : s.state = .loggedIn
  susyId : s.inverterSusyId = p.root.susyId
  serial : s.inverterSerial = p.root.serial
  devices : s.transport.devices = p.devices
  few : s.transport.inbox.length < 16
  noise : Noise (succPktId s.pcktid) s.transport.inbox
  clear : 32768 ≤ (succPktId s.pcktid).toNat → s.transport.inbox = []

/-- Noise in front of the next fragment makes no difference. -/
theorem run_collectFragments_noise {T : Type} [Transport T] {s : Session T} {pktId : UInt16}
    {noise : List (List UInt8)} {raw : List UInt8} {t t' : T} {reply : L2Reply}
    (hdel : Delivers s.frames s.transport noise t) (hnoise : Noise pktId noise)
    (hfew : noise.length < 16) (hnext : s.frames t = (.ok raw, t'))
    (hmatch : pktIdMatch pktId raw = some (raw, reply)) (n : Nat) (aggregated : List UInt8) :
    (collectFragments pktId (n + 1) aggregated).run s
      = (collectFragments pktId (n + 1) aggregated).run { s with transport := t } := by
  obtain ⟨-, hdr, body, hl2, hid, rfl⟩ := pktIdMatch_eq_some.mp hmatch
  have hbehind : (recvL2WithPktId pktId "event-log").run s
      = .ok (raw, replyOf hdr body) { s with transport := t' } :=
    recvL2WithPktId_found (hdel.append (.cons hnext (.nil t'))) hnoise hfew hl2 hid _
  have hfirst : (recvL2WithPktId pktId "event-log").run { s with transport := t }
      = .ok (raw, replyOf hdr body) { s with transport := t' } :=
    run_recvL2WithPktId_next (s := { s with transport := t }) hnext hmatch _
  rw [collectFragments, bind_of_ok hbehind, bind_of_ok hfirst]

namespace Attached

variable {p : Piconet} {s : Session Piconet}

theorem respondent_eq (h : Attached p s) (susyId : UInt16) (serial : UInt32) :
    s.transport.respondent susyId serial = p.respondent susyId serial := by
  rw [Piconet.respondent, Piconet.respondent, h.devices]

/-- The request is answered as it should be, and all that came in is used up. -/
def Served (p : Piconet) (s : Session Piconet) (r : Request) : Prop :=
  ∃ q : Piconet, q.devices = p.devices ∧ q.inbox = [] ∧
    r.call.run s = ended (p.answerTo (succPktId s.pcktid) r) { s.advance with transport := q }

/-- A request that is served leaves the session attached. -/
theorem emptied (h : Attached p s) {q : Piconet} (hdevices : q.devices = p.devices)
    (hempty : q.inbox = []) : Attached p { s.advance with transport := q } where
  loggedIn := h.loggedIn
  susyId := h.susyId
  serial := h.serial
  devices := hdevices
  few := by
    show q.inbox.length < 16
    rw [hempty]
    decide
  noise := by
    show Noise _ q.inbox
    rw [hempty]
    intro raw hraw
    nomatch hraw
  clear _ := hempty

/-- What is read of the request in hand. -/
theorem wirePktId_low (hlow : (succPktId s.pcktid).toNat < 32768) :
    wirePktId (wirePktId (succPktId s.pcktid)) = succPktId s.pcktid := by
  rw [(wirePktId_eq_iff _).mpr hlow, (wirePktId_eq_iff _).mpr hlow]

/-- **One query**: the answer of the device asked, behind everything that was left over; a reply to an
    id that does not fit the wire is passed over. -/
theorem queryForDevice_served (h : Attached p s) (susyId : UInt16) {serial : UInt32}
    (hplain : serial ≠ anySerial) (kind : QueryKind) :
    Served p s (.queryForDevice susyId serial kind) := by
  let q := s.transport
  let wire := s.queryWire susyId serial kind
  let req := (L2Header.query (succPktId s.pcktid) s.appSerial susyId serial).onWire
  have hbody : (writeU32 kind.opcode.1 ++ writeU32 kind.opcode.2.1 ++
      writeU32 kind.opcode.2.2).length ≤ 32000 := (by decide : 12 ≤ 32000)
  have hsend : Transport.sendFrame s.transport wire
      = (.ok wire.length, q.next (q.inbox ++ q.replies wire)) := rfl
  have hreplies : q.replies wire = ((q.respondent susyId serial).map _).getD [] :=
    q.replies_addressed s.cfg.localBt _ hbody hplain
  simp only [Device.answers_query] at hreplies
  rw [h.respondent_eq] at hreplies
  -- if all that comes in is passed over, the query is silent
  have hsilent : (q.inbox ++ q.replies wire).length < 16 →
      Noise (succPktId s.pcktid) (q.inbox ++ q.replies wire) →
        (queryForDevice susyId serial kind).run s
          = .error (.silent "query") { s.advance with transport := q.next [] } := by
    intro hfew hnoise
    have hdel : Delivers s.frames (q.next (q.inbox ++ q.replies wire)) (q.inbox ++ q.replies wire)
      (q.next []) := q.next_delivers _ _
    have hquiet : s.frames (q.next []) = (.error (.timeout s.cfg.timeoutMs), q.next []) := rfl
    rw [run_queryForDevice h.loggedIn, hsend]
    simp only
    rw [poll_error hdel (noise_iff.mp hnoise) hquiet hfew]
    rfl
  refine ⟨q.next [], h.devices, rfl, ?_⟩
  show (queryForDevice susyId serial kind).run s = _
  rw [Piconet.answerTo]
  by_cases hlow : (succPktId s.pcktid).toNat < 32768
  · rw [if_pos hlow, Piconet.answerQuery]
    -- nobody has an answer, or one device has one
    cases hanswer : (p.respondent susyId serial).bind
        (·.answer kind.opcode.1 kind.opcode.2.1 kind.opcode.2.2) with
    | none =>
      have hnone : q.replies wire = [] := by
        rw [hreplies]
        cases hresp : p.respondent susyId serial with
        | none => rfl
        | some d =>
          rw [hresp, Option.bind_some] at hanswer
          rw [Option.map_some, Option.getD_some, hanswer]
          rfl
      rw [hnone, List.append_nil] at hsilent
      exact hsilent h.few h.noise
    | some body =>
      obtain ⟨d, hresp, hbody⟩ := Option.bind_eq_some_iff.mp hanswer
      rw [hresp, Option.map_some, Option.getD_some, hbody, Option.map_some, Option.toList_some]
        at hreplies
      rw [hreplies] at hsend
      have hdel := q.next_delivers s.cfg.timeoutMs (q.inbox ++ [d.reply req 0 body.val])
      obtain ⟨frame, hdr, hparse, hkind, -, -, hdec, hid, -⟩ := d.parse_reply req 0 body.property
      exact (run_queryForDevice_ok_iff h.loggedIn).mpr ⟨q.inbox, _, _, hdr,
        ⟨⟨_, _, hsend, hdel⟩, h.few, noise_iff.mp h.noise⟩,
        l2Of_eq_some.mpr ⟨frame, hparse, hkind, hdec⟩, hid.trans (wirePktId_low hlow), rfl⟩
  · rw [if_neg hlow]
    have hempty : q.inbox = [] := h.clear (Nat.not_lt.mp hlow)
    rw [hempty, List.nil_append] at hsilent
    refine hsilent ?_ (q.noise_replies_high s.cfg.localBt _ hbody (Nat.not_lt.mp hlow))
    rw [hreplies]
    cases p.respondent susyId serial with
    | none => exact (by decide : 0 < 16)
    | some d =>
      rw [Option.map_some, Option.getD_some]
      cases d.answer kind.opcode.1 kind.opcode.2.1 kind.opcode.2.2 with
      | none => exact (by decide : 0 < 16)
      | some body => exact (by decide : 1 < 16)

theorem fragmentOf_reply (d : Device) {req : L2Header} {pktId : UInt16}
    (hid : wirePktId req.pktId = pktId) (body : CommandBody) :
    FragmentOf pktId (d.reply req 0 body.val) body.val := by
  obtain ⟨frame, hdr, hparse, hkind, -, -, hdec, hpkt, hcode, -⟩ := d.parse_reply req 0 body.property
  have hl2 := l2Of_eq_some.mpr ⟨frame, hparse, hkind, hdec⟩
  exact ⟨_, pktIdMatch_eq_some.mpr ⟨rfl, hdr, body.val, hl2, hpkt.trans hid, rfl⟩, hcode, rfl⟩

/-- The fragments of a log, received behind what was left over, are put together. -/
theorem run_collectFragments_log (h : Attached p s) (d : Device)
    {req : L2Header} (hid : wirePktId req.pktId = succPktId s.pcktid) (log : LogAnswer)
    {q : Piconet} :
    (collectFragments (succPktId s.pcktid) 32 []).run
        { s.advance with transport := q.next (s.transport.inbox ++
          (log.fragments ++ [log.echo]).map fun body => d.reply req 0 body.val) }
      = .ok log.text { s.advance with transport := q.next [] } := by
  let sent := log.fragments.map fun body => (d.reply req 0 body.val, body.val)
  have hfrags : ∀ f ∈ sent, FragmentOf (succPktId s.pcktid) f.1 f.2 ∧ 12 < f.2.length := by
    intro f hf
    obtain ⟨body, hbody, rfl⟩ := List.mem_map.mp hf
    exact ⟨fragmentOf_reply d hid body, log.records body hbody⟩
  have hecho := fragmentOf_reply d hid log.echo
  have hraws : (log.fragments ++ [log.echo]).map (fun body => d.reply req 0 body.val)
      = sent.map Prod.fst ++ [d.reply req 0 log.echo.val] := by
    simp only [sent, List.map_append, List.map_map, List.map_cons, List.map_nil]
    rfl
  have hlength : sent.length < 32 := by
    rw [List.length_map]
    exact Nat.lt_trans log.few (by decide)
  have hbodies : sent.map Prod.snd = log.fragments.map Subtype.val := by
    simp only [sent, List.map_map]
    rfl
  have hdel : Delivers s.frames (q.next (s.transport.inbox ++ (sent.map Prod.fst ++
      [d.reply req 0 log.echo.val]))) (s.transport.inbox ++ (sent.map Prod.fst ++
      [d.reply req 0 log.echo.val])) (q.next []) := q.next_delivers _ _
  obtain ⟨t, hleft, hlog⟩ := hdel.split
  have hall : (collectFragments (succPktId s.pcktid) 32 []).run { s.advance with transport := t }
      = .ok ([] ++ (sent.map Prod.snd).flatten ++ log.echo.val)
          { s.advance with transport := q.next [] } :=
    run_collectFragments (s := { s.advance with transport := t }) hlength hfrags hecho log.bare hlog []
  rw [hbodies] at hall
  rw [hraws, ← show ([] ++ (log.fragments.map Subtype.val).flatten ++ log.echo.val) = log.text from rfl,
    ← hall]
  -- the first of them is found behind the noise
  obtain ⟨raw, t', reply, hnext, hmatch⟩ : ∃ raw t' reply, s.frames t = (.ok raw, t') ∧
      pktIdMatch (succPktId s.pcktid) raw = some (raw, reply) := by
    cases hcases : sent with
    | nil =>
      rw [hcases] at hlog
      obtain ⟨reply, hmatch, -⟩ := hecho
      cases hlog with
      | cons hnext _ => exact ⟨_, _, reply, hnext, hmatch⟩
    | cons f rest =>
      rw [hcases] at hlog
      obtain ⟨reply, hmatch, -⟩ := (hfrags f (hcases ▸ List.mem_cons_self)).1
      cases hlog with
      | cons hnext _ => exact ⟨_, _, reply, hnext, hmatch⟩
  exact run_collectFragments_noise
    (s := { s.advance with transport := q.next (s.transport.inbox ++ _) }) hleft h.noise h.few
    hnext hmatch 31 []

/-- **One event-log query**: the log of the device asked, behind everything that was left over. -/
theorem queryEventLog_served (h : Attached p s) (susyId : UInt16) {serial : UInt32}
    (hplain : serial ≠ anySerial) (startUnix endUnix : UInt32) :
    Served p s (.queryEventLogForDevice susyId serial startUnix endUnix) := by
  let q := s.transport
  let wire := s.eventLogWire susyId serial startUnix endUnix
  let req := (L2Header.eventLogQuery (succPktId s.pcktid) s.appSerial susyId serial).onWire
  have hbody : (writeU32 eventLogCommand ++ writeU32 startUnix ++ writeU32 endUnix).length ≤ 32000 :=
    (by decide : 12 ≤ 32000)
  have hsend : Transport.sendFrame s.transport wire
      = (.ok wire.length, q.next (q.inbox ++ q.replies wire)) := rfl
  have hreplies : q.replies wire = ((q.respondent susyId serial).map _).getD [] :=
    q.replies_addressed s.cfg.localBt _ hbody hplain
  simp only [Device.answers_eventLog] at hreplies
  rw [h.respondent_eq] at hreplies
  -- sixteen frames at most, all of them passed over
  have hsilent : (q.inbox ++ q.replies wire).length ≤ 16 →
      Noise (succPktId s.pcktid) (q.inbox ++ q.replies wire) →
        (queryEventLogForDevice susyId serial startUnix endUnix).run s
          = .error (.silent "event-log") { s.advance with transport := q.next [] } := by
    intro hfew hnoise
    let s₁ : Session Piconet := { s.advance with transport := q.next (q.inbox ++ q.replies wire) }
    have hdel : Delivers s₁.frames s₁.transport (q.inbox ++ q.replies wire) (q.next []) :=
      q.next_delivers _ _
    have hquiet : s₁.frames (q.next []) = (.error (.timeout s.cfg.timeoutMs), q.next []) := rfl
    have hfirst : (recvL2WithPktId (succPktId s.pcktid) "event-log").run s₁
        = .error (.silent "event-log") { s.advance with transport := q.next [] } := by
      rcases Nat.lt_or_eq_of_le hfew with hlt | heq
      · exact recvL2WithPktId_timeout hdel hnoise hlt hquiet _
      · exact recvL2WithPktId_used_up hdel hnoise heq _
    rw [run_queryEventLogForDevice h.loggedIn _ _ _ _ hsend, collectFragments, bind_of_error hfirst]
  refine ⟨q.next [], h.devices, rfl, ?_⟩
  show (queryEventLogForDevice susyId serial startUnix endUnix).run s = _
  rw [Piconet.answerTo]
  by_cases hlow : (succPktId s.pcktid).toNat < 32768
  · rw [if_pos hlow, Piconet.answerEventLog]
    cases hanswer : (p.respondent susyId serial).bind (·.eventLog startUnix endUnix) with
    | none =>
      have hnone : q.replies wire = [] := by
        rw [hreplies]
        cases hresp : p.respondent susyId serial with
        | none => rfl
        | some d =>
          rw [hresp, Option.bind_some] at hanswer
          rw [Option.map_some, Option.getD_some, hanswer]
          rfl
      rw [hnone, List.append_nil] at hsilent
      exact hsilent h.few.le h.noise
    | some log =>
      obtain ⟨d, hresp, hlog⟩ := Option.bind_eq_some_iff.mp hanswer
      rw [hresp, Option.map_some, Option.getD_some, hlog, Option.map_some, Option.getD_some] at hreplies
      rw [hreplies] at hsend
      have hid : wirePktId req.pktId = succPktId s.pcktid := wirePktId_low hlow
      rw [run_queryEventLogForDevice h.loggedIn _ _ _ _ hsend]
      exact h.run_collectFragments_log d hid log
  · rw [if_neg hlow]
    have hempty : q.inbox = [] := h.clear (Nat.not_lt.mp hlow)
    rw [hempty, List.nil_append] at hsilent
    refine hsilent ?_ (q.noise_replies_high s.cfg.localBt _ hbody (Nat.not_lt.mp hlow))
    rw [hreplies]
    cases p.respondent susyId serial with
    | none => exact (by decide : 0 ≤ 16)
    | some d =>
      rw [Option.map_some, Option.getD_some]
      cases d.eventLog startUnix endUnix with
      | none => exact (by decide : 0 ≤ 16)
      | some log =>
        have hfew := log.few
        simp only [Option.map_some, Option.getD_some, List.length_map, List.length_append,
          List.length_cons, List.length_nil]
        omega

/-- **One request** gets the answer of the device it is addressed to. -/
theorem call_served (h : Attached p s) {r : Request} (hr : r.Targeted) : Served p s r := by
  cases r with
  | query kind =>
    have hplain : s.inverterSerial ≠ anySerial := by
      rw [h.serial]
      exact p.serials_plain p.root p.root_mem
    obtain ⟨q, hdevices, hempty, hrun⟩ := h.queryForDevice_served s.inverterSusyId hplain kind
    refine ⟨q, hdevices, hempty, ?_⟩
    rw [Request.call, Session.query, bind_of_ok (EStateM.run_get s)]
    refine hrun.trans ?_
    rw [h.susyId, h.serial]
    rfl
  | queryForDevice susyId serial kind => exact h.queryForDevice_served susyId hr kind
  | queryEventLogForDevice susyId serial startUnix endUnix =>
    exact h.queryEventLog_served susyId hr startUnix endUnix

/-- **A run of requests**, by induction: each one is answered as if it were alone. -/
theorem responses_eq (h : Attached p s) {rs : List Request} (hrs : ∀ r ∈ rs, r.Targeted) :
    responses rs s = p.answersTo s.pcktid rs := by
  induction rs generalizing s with
  | nil => rfl
  | cons r rs ih =>
    rw [List.forall_mem_cons] at hrs
    obtain ⟨q, hdevices, hempty, hrun⟩ := h.call_served hrs.1
    rw [responses, hrun, value_ended, final_ended, ih (h.emptied hdevices hempty) hrs.2,
      Piconet.answersTo]
    rfl

end Attached

/-! ## The handshake -/

section Steps

variable {T : Type} [Transport T] {s : Session T}

theorem bind_sent {β : Type} {data : List UInt8} {n : Nat} {t : T} {f : Nat → SessionM T β}
    (h : Transport.sendFrame s.transport data = (.ok n, t)) :
    (sendFrame data >>= f).run s = (f n).run { s with transport := t } :=
  bind_of_ok (sendFrame_eq_ok.mpr ⟨t, h, rfl⟩) f

theorem bind_received {β : Type} {phase : String} {raw : List UInt8} {t : T}
    {f : List UInt8 → SessionM T β} (h : s.frames s.transport = (.ok raw, t)) :
    (recvFrame phase >>= f).run s = (f raw).run { s with transport := t } :=
  bind_of_ok (recvFrame_eq_ok.mpr ⟨t, h, rfl⟩) f

theorem bind_found {β : Type} {wantCtrl : UInt16} {phase : String} {raw : List UInt8} {t : T}
    {f : List UInt8 → SessionM T β}
    (h : poll s.frames (ctrlMatch wantCtrl) 12 s.transport = (.ok raw, t)) :
    (recvUntilL1Ctrl wantCtrl phase >>= f).run s = (f raw).run { s with transport := t } :=
  bind_of_ok (recvUntilL1Ctrl_eq_ok.mpr ⟨t, h, rfl⟩) f

/-- A handshake up to the logon, whatever becomes of it there. -/
theorem run_handshake_to_logon {nowEpoch : UInt32} {n₁ n₂ n₃ n₄ n₅ : Nat} {hello topology : List UInt8}
    {helloFrame : Frame} {initReply : L2Reply} {t₁ t₂ t₃ t₄ t₅ t₆ t₇ t₈ : T}
    (hver : Transport.sendFrame s.transport verWire = (.ok n₁, t₁))
    (hhello : s.frames t₁ = (.ok hello, t₂)) (hparse : Frame.parse hello = .ok helloFrame)
    (hctrl : helloFrame.control = 0x0002) (hlong : 23 ≤ hello.length)
    (hfirmware : 4 ≤ byteAt hello 19)
    (hecho : Transport.sendFrame t₂ (echoWire helloFrame.localBt (byteAt hello 22)) = (.ok n₂, t₃))
    (htopology : poll s.frames (ctrlMatch 0x0005) 12 t₃ = (.ok topology, t₄))
    (hinit : Transport.sendFrame t₄ s.initWire = (.ok n₃, t₅))
    (hreply : polls s.frames (ctrlMatch 0x0001) 12
      (initMatch (succPktId s.pcktid) helloFrame.localBt) 16 t₅ = (.ok initReply, t₆))
    (hlogoff : Transport.sendFrame t₆ s.logoffWire = (.ok n₄, t₇))
    (hlogon : Transport.sendFrame t₇ (s.logonWire nowEpoch) = (.ok n₅, t₈)) :
    (handshakeAndLogon nowEpoch).run s
      = (do
          let _ ← recvLogonReply s.logonPktId
          modify fun s => { s with state := .loggedIn } : SessionM T Unit).run
          (s.atLogon initReply t₈) := by
  have hinitRun : (recvInitFromTarget (succPktId s.pcktid) helloFrame.localBt).run
      { s with transport := t₅, state := .enumerating, pcktid := succPktId s.pcktid }
        = .ok initReply
          { s with transport := t₆, state := .enumerating, pcktid := succPktId s.pcktid } := by
    rw [run_recvInitFromTarget]
    exact polled_eq_ok.mpr ⟨t₆, hreply, rfl⟩
  -- hello and topology
  rw [handshakeAndLogon_eq, helloSteps]
  refine Eq.trans (bind_of_ok (EStateM.run_modify _ _) _) ?_
  refine Eq.trans (bind_sent hver) ?_
  refine Eq.trans (bind_received hhello) ?_
  refine Eq.trans (bind_of_ok (parseFrame_eq_ok.mpr ⟨hparse, rfl⟩) _) ?_
  refine Eq.trans (bind_of_ok (run_ensure_of hctrl _ _) _) ?_
  refine Eq.trans (bind_of_ok (run_ensure_of hlong _ _) _) ?_
  refine Eq.trans (bind_of_ok (run_ensure_of hfirmware _ _) _) ?_
  refine Eq.trans (bind_sent hecho) ?_
  refine Eq.trans (bind_found htopology) ?_
  -- init
  rw [initSteps]
  refine Eq.trans (bind_of_ok (EStateM.run_modify _ _) _) ?_
  refine Eq.trans (bind_of_ok (nextPcktid_eq_ok.mpr ⟨rfl, rfl⟩) _) ?_
  refine Eq.trans (bind_of_ok (get_eq_ok.mpr ⟨rfl, rfl⟩) _) ?_
  refine Eq.trans (bind_sent hinit) ?_
  refine Eq.trans (bind_of_ok hinitRun _) ?_
  refine Eq.trans (bind_of_ok (EStateM.run_modify _ _) _) ?_
  -- logoff and logon
  rw [logonSteps]
  refine Eq.trans (bind_of_ok (nextPcktid_eq_ok.mpr ⟨rfl, rfl⟩) _) ?_
  refine Eq.trans (bind_sent hlogoff) ?_
  refine Eq.trans (bind_of_ok (nextPcktid_eq_ok.mpr ⟨rfl, rfl⟩) _) ?_
  refine Eq.trans (bind_sent hlogon) ?_
  rfl

/-- A frame the logon loop has no use for: an L2 packet with another packet id. -/
def Foreign (pktId : UInt16) (raw : List UInt8) : Prop :=
  ∃ frame hdr data, Frame.parse raw = .ok frame ∧ frame.control = 0x0001 ∧
    decodeL2 frame.payload = some (hdr, data) ∧ hdr.pktId ≠ pktId

/-- Foreign frames use up one attempt of the logon loop each. -/
theorem run_logonReplyLoop_foreign {pktId : UInt16} {foreign : List (List UInt8)} {t : T}
    (hforeign : ∀ raw ∈ foreign, Foreign pktId raw) (hdel : Delivers s.frames s.transport foreign t)
    (n : Nat) (last : Option L2Reply) :
    (logonReplyLoop pktId (foreign.length + n) last).run s
      = (logonReplyLoop pktId n last).run { s with transport := t } := by
  induction foreign generalizing s with
  | nil =>
    cases hdel
    rw [List.length_nil, Nat.zero_add]
  | cons raw foreign ih =>
    rw [List.forall_mem_cons] at hforeign
    obtain ⟨⟨frame, hdr, data, hparse, hctrl, hdec, hid⟩, hrest⟩ := hforeign
    cases hdel with
    | @cons _ t₁ _ _ _ hnext hmore =>
      have hrecv := run_recvUntilL1Ctrl_next hnext hparse "logon"
      rw [hctrl] at hrecv
      rw [List.length_cons, Nat.add_right_comm, logonReplyLoop, EStateM.run_bind, run_attempt, hrecv]
      simp only [value_ok, final_ok, hparse, hdec, hid, ne_eq, not_false_eq_true, if_true]
      exact ih hrest (s := { s with transport := t₁ }) hmore

/-- Rejections, and then an acceptance. -/
theorem run_logonReplyLoop_accepted {pktId : UInt16} {rejections : List (List UInt8 × UInt16)}
    {raw : List UInt8} {n : Nat} {t : T}
    (hreject : ∀ r ∈ rejections, IsLogonReply pktId r.1 r.2 ∧ r.2 ≠ 0)
    (haccept : IsLogonReply pktId raw 0)
    (hdel : Delivers s.frames s.transport (rejections.map Prod.fst ++ [raw]) t)
    (hn : rejections.length < n) (last : Option L2Reply) :
    ∃ reply last', (logonReplyLoop pktId n last).run s
      = .ok (some reply, last') { s with transport := t } := by
  induction rejections generalizing n s last with
  | nil =>
    obtain ⟨k, rfl⟩ := Nat.exists_eq_add_of_lt hn
    cases hdel with
    | cons hnext hnil =>
      cases hnil
      obtain ⟨reply, -, hrun⟩ := run_logonReplyLoop_cons haccept hnext (0 + k) last
      rw [if_pos rfl] at hrun
      exact ⟨reply, last, hrun⟩
  | cons r rejections ih =>
    obtain ⟨raw', code⟩ := r
    rw [List.forall_mem_cons] at hreject
    rw [List.length_cons] at hn
    obtain ⟨m, rfl⟩ := Nat.exists_eq_succ_of_ne_zero (show n ≠ 0 by omega)
    cases hdel with
    | @cons _ t₁ _ _ _ hnext hmore =>
      obtain ⟨reply, -, hstep⟩ := run_logonReplyLoop_cons hreject.1.1 hnext m last
      rw [if_neg hreject.1.2] at hstep
      obtain ⟨accepted, last', hrun⟩ :=
        ih hreject.2 (s := { s with transport := t₁ }) hmore (show rejections.length < m by omega)
          (some reply)
      exact ⟨accepted, last', hstep.trans hrun⟩

end Steps

/-! ### The frames of the handshake, as the piconet sees them -/

theorem parse_verWire : ∃ frame, Frame.parse verWire = .ok frame ∧ frame.control = 0x0201 :=
  ⟨_, Frame.parse_wire
    (m := ⟨.l1Only, .fill 0, ⟨[1, 0, 0, 0, 0, 0], rfl⟩, 0x0201, [0x76, 0x65, 0x72, 0x0D, 0x0A]⟩)
    (by constructor <;> decide) (by decide), rfl⟩

theorem parse_echoWire (inverterBt : BtAddr) (netId : UInt8) :
    ∃ frame, Frame.parse (echoWire inverterBt netId) = .ok frame ∧ frame.control = 0x0002 := by
  refine ⟨_, Frame.parse_wire (m := ⟨.l1Only, .fill 0, inverterBt, 0x0002,
    writeU32 0x00700400 ++ [netId] ++ writeU32 0 ++ writeU32 1⟩) ⟨?_, ?_⟩ ?_, rfl⟩
  · rintro ⟨t, ht⟩
    exact absurd (List.cons.inj ht).1 (by decide)
  · rintro ⟨t, ht⟩
    exact absurd (List.cons.inj ht).1 (by decide)
  · rw [Frame.length_wire_l1Only rfl]
    show 18 + 13 < 65536
    decide

end Session

namespace Piconet

variable (p : Piconet)

theorem replies_verWire : p.replies Session.verWire = [p.hello] := by
  obtain ⟨frame, hparse, hctrl⟩ := Session.parse_verWire
  rw [replies, hparse]
  simp only [hctrl, if_true]

theorem replies_echoWire (inverterBt : BtAddr) (netId : UInt8) :
    p.replies (Session.echoWire inverterBt netId) = [p.topology] := by
  obtain ⟨frame, hparse, hctrl⟩ := Session.parse_echoWire inverterBt netId
  rw [replies, hparse]
  simp only [hctrl, if_neg (show ¬ (0x0002 : UInt16) = 0x0201 by decide), if_true]

theorem parse_hello :
    Frame.parse p.hello
      = .ok ⟨.l1Only, p.root.bt, .fill 0, 0x0002, [0, p.firmware.val, 0x70, 0, p.netId]⟩ := by
  refine Session.parse_l1Wire _ _ ?_ ?_ (show 5 < 65000 by decide)
  · rintro ⟨t, ht⟩
    exact absurd (List.cons.inj ht).1 (by decide)
  · rintro ⟨t, ht⟩
    exact absurd (List.cons.inj ht).1 (by decide)

/-- The hello as bytes: the header, and the five bytes that the client looks into. -/
theorem hello_bytes : ∃ header : List UInt8, header.length = 18 ∧
    p.hello = header ++ [0, p.firmware.val, 0x70, 0, p.netId] := by
  refine ⟨_, ?_, rfl⟩
  simp only [FrameBuilder.l1Header, List.length_append, List.length_cons, List.length_nil,
    BtAddr.length_eq]

theorem byteAt_hello : p.hello.length = 23 ∧ byteAt p.hello 19 = p.firmware.val := by
  obtain ⟨header, hlen, heq⟩ := p.hello_bytes
  constructor
  · rw [heq, List.length_append, hlen]
    rfl
  · rw [heq, byteAt, List.getD_append_right _ _ _ _ (by omega), hlen]
    rfl

theorem ctrlMatch_topology : Session.ctrlMatch 0x0005 p.topology = some p.topology :=
  Session.ctrlMatch_eq_some.mpr
    ⟨rfl, _, Session.parse_l1Wire _ _ (by decide) (by decide) (by decide), rfl⟩

end Piconet

/-! ### Up to the logon -/

namespace Session

/-- The request headers of init and logon, as the devices read them. -/
def initRequest (s : Session Piconet) : L2Header :=
  (L2Header.init (succPktId s.pcktid) s.appSerial).onWire

def logonRequest (s : Session Piconet) : L2Header :=
  (L2Header.logon s.logonPktId s.appSerial).onWire

/-- What the client finds in the inbox when its logon is out: the init replies of the devices behind
    the root, and then a logon reply of every device. -/
def atLogonInbox (s : Session Piconet) (behind devices : List Device) : List (List UInt8) :=
  behind.map (fun d => d.reply s.initRequest 0 []) ++
    devices.map fun d => d.reply s.logonRequest d.logonCode []

variable {s : Session Piconet}

theorem word_at_front (word : UInt32) (args : List UInt8) :
    readU32 (slice (writeU32 word ++ args) 0 4) = word := by
  have hfront : slice (writeU32 word ++ args) 0 4 = writeU32 word := rfl
  rw [hfront, readU32_writeU32]

theorem replies_initWire (q : Piconet) :
    q.replies s.initWire = (q.order q.round).map fun d => d.reply s.initRequest 0 [] := by
  rw [initWire, buildInitBody, q.replies_broadcast _ _ (by decide) rfl rfl, List.map_eq_flatMap]
  refine List.flatMap_congr fun d _ => ?_
  rw [List.append_assoc]
  exact d.answers_init _ _ (word_at_front _ _)

theorem replies_logoffWire (q : Piconet) : q.replies s.logoffWire = [] := by
  rw [logoffWire, buildLogoffBody, q.replies_broadcast _ _ (by decide) rfl rfl,
    List.flatMap_eq_nil_iff]
  intro d _
  exact d.answers_logoff _ _ (word_at_front _ _)

theorem replies_logonWire (q : Piconet) (nowEpoch : UInt32) :
    q.replies (s.logonWire nowEpoch)
      = (q.order q.round).map fun d => d.reply s.logonRequest d.logonCode [] := by
  rw [logonWire, buildLogonBody, q.replies_broadcast _ _ (by simp) rfl rfl, List.map_eq_flatMap]
  refine List.flatMap_congr fun d _ => ?_
  simp only [List.append_assoc]
  exact d.answers_logon _ _ (word_at_front _ _)

/-- Only the root's init reply comes from the root's address. -/
theorem initMatch_reply {id : UInt16} {req : L2Header} (hid : wirePktId req.pktId = id)
    (d : Device) (bt : BtAddr) :
    (d.bt ≠ bt → initMatch id bt (d.reply req 0 []) = none) ∧
      (d.bt = bt → ∃ reply : L2Reply, initMatch id bt (d.reply req 0 []) = some reply ∧
        reply.appSusyId = d.susyId ∧ reply.appSerial = d.serial) := by
  obtain ⟨frame, hdr, hparse, -, -, hsrc, hdec, hpkt, -, hsusy, hserial⟩ :=
    d.parse_reply req 0 (by decide : ([] : List UInt8).length ≤ 32000)
  constructor
  · intro hne
    cases hmatch : initMatch id bt (d.reply req 0 []) with
    | none => rfl
    | some reply =>
      obtain ⟨frame', -, -, hparse', -, -, hsrc', -⟩ := initMatch_eq_some.mp hmatch
      obtain rfl := Except.ok.inj (hparse.symm.trans hparse')
      exact absurd (hsrc.symm.trans hsrc') hne
  · intro heq
    exact ⟨_, initMatch_eq_some.mpr ⟨frame, hdr, [], hparse, hdec, hpkt.trans hid, hsrc.trans heq, rfl⟩,
      hsusy, hserial⟩

theorem ctrlMatch_reply (d : Device) (req : L2Header) (code : UInt16) :
    ctrlMatch 0x0001 (d.reply req code []) = some (d.reply req code []) := by
  obtain ⟨frame, hdr, hparse, -, hctrl, -⟩ := d.parse_reply req code
    (by decide : ([] : List UInt8).length ≤ 32000)
  exact ctrlMatch_eq_some.mpr ⟨rfl, frame, hparse, hctrl⟩

/-- Where every value matches there are no gaps. -/
theorem shortGaps_of_matches {β γ : Type} {p : β → Option γ} {n : Nat} {bs : List β} (hn : 0 < n)
    (h : ∀ b ∈ bs, p b ≠ none) : ShortGaps p n bs := by
  intro gap hgap hnone
  cases gap with
  | nil => exact hn
  | cons b gap => exact absurd (hnone b List.mem_cons_self) (h b (hgap.subset List.mem_cons_self))

/-- The id of the init packet, and of the logon two packets later. -/
theorem handshake_ids (hn : s.pcktid.toNat + 3 < 32768) :
    (succPktId s.pcktid).toNat = s.pcktid.toNat + 1 ∧ s.logonPktId.toNat = s.pcktid.toNat + 3 := by
  have h₁ : (succPktId s.pcktid).toNat = s.pcktid.toNat + 1 := by
    rw [succPktId_toNat]
    omega
  have h₂ : (succPktId (succPktId s.pcktid)).toNat = s.pcktid.toNat + 2 := by
    rw [succPktId_toNat, h₁]
    omega
  refine ⟨h₁, ?_⟩
  rw [logonPktId, succPktId_toNat, h₂]
  omega

theorem wirePktId_request {id : UInt16} (hid : id.toNat < 32768) : wirePktId (wirePktId id) = id := by
  have hplain := (wirePktId_eq_iff id).mpr hid
  rw [hplain, hplain]

/-- **The handshake gets to the logon** with the identity of the root, whoever else answers the init
    packet, and leaves the others' replies where they are. -/
theorem handshake_reaches_logon (hempty : s.transport.inbox = []) (hn : s.pcktid.toNat + 3 < 32768)
    (hsize : s.transport.devices.length ≤ 16) (nowEpoch : UInt32) :
    ∃ (behind devices : List Device) (initReply : L2Reply) (q : Piconet),
      behind.length < s.transport.devices.length ∧ devices.Perm s.transport.devices ∧
      initReply.appSusyId = s.transport.root.susyId ∧
      initReply.appSerial = s.transport.root.serial ∧ q.devices = s.transport.devices ∧
      (handshakeAndLogon nowEpoch).run s
        = (do
            let _ ← recvLogonReply s.logonPktId
            modify fun s => { s with state := .loggedIn } : SessionM Piconet Unit).run
            (s.atLogon initReply (q.next (s.atLogonInbox behind devices))) := by
  obtain ⟨p, hp⟩ : ∃ p, s.transport = p := ⟨_, rfl⟩
  rw [hp] at hempty hsize ⊢
  obtain ⟨hinitId, hlogonId⟩ := handshake_ids hn
  have hid : wirePktId s.initRequest.pktId = succPktId s.pcktid :=
    wirePktId_request (show (succPktId s.pcktid).toNat < 32768 by omega)
  -- the transport from packet to packet
  let p₁ := p.next []
  let p₂ := p₁.next []
  let p₃ := p₂.next []
  let p₄ := p₃.next []
  have hver : Transport.sendFrame s.transport verWire = (.ok verWire.length, p.next [p.hello]) := by
    rw [hp]
    show (_, p.next (p.inbox ++ p.replies verWire)) = _
    rw [hempty, p.replies_verWire, List.nil_append]
  have hhello : s.frames (p.next [p.hello]) = (.ok p.hello, p₁) := rfl
  obtain ⟨hlong, hfirmware⟩ := p.byteAt_hello
  have hecho : Transport.sendFrame p₁ (echoWire p.root.bt (byteAt p.hello 22))
      = (.ok (echoWire p.root.bt (byteAt p.hello 22)).length, p₁.next [p.topology]) := by
    show (_, p₁.next (p₁.inbox ++ p₁.replies _)) = _
    rw [p₁.replies_echoWire]
    rfl
  have htopology : poll s.frames (ctrlMatch 0x0005) 12 (p₁.next [p.topology]) = (.ok p.topology, p₂) :=
    poll_found (p₁.next_delivers _ ([] ++ [p.topology])) (fun _ h => nomatch h) p.ctrlMatch_topology
      (by decide)
  obtain ⟨front, behind, horder⟩ := List.append_of_mem (p.mem_order (k := p₂.round) |>.mpr p.root_mem)
  have hlen : front.length + (behind.length + 1) = p.devices.length := by
    rw [← (p.order_perm p₂.round).length_eq, horder, List.length_append, List.length_cons]
  let say : Device → List UInt8 := fun d => d.reply s.initRequest 0 []
  have hinit : Transport.sendFrame p₂ s.initWire
      = (.ok s.initWire.length, p₂.next ((front.map say ++ [say p.root]) ++ behind.map say)) := by
    show (_, p₂.next (p₂.inbox ++ p₂.replies s.initWire)) = _
    rw [replies_initWire, show p₂.order p₂.round = p.order p₂.round from rfl, horder, List.map_append,
      List.map_cons, List.append_assoc]
    rfl
  -- the others in front of the root come from other addresses
  have hothers : ∀ d ∈ front, d.bt ≠ p.root.bt := by
    intro d hd hsame
    have hnodup := horder ▸ p.order_nodup p₂.round
    have hmem : d ∈ p.devices := p.mem_order.mp (horder ▸ List.mem_append_left _ hd)
    have heq := List.inj_on_of_nodup_map p.addresses_nodup hmem p.root_mem hsame
    rw [heq] at hd
    exact (List.nodup_cons.mp (List.nodup_middle.mp hnodup)).1 (List.mem_append_left _ hd)
  obtain ⟨initReply, hmatch, hsusy, hserial⟩ := (initMatch_reply hid p.root p.root.bt).2 rfl
  have hfilter : (front.map say).filterMap (ctrlMatch 0x0001) = front.map say := by
    rw [List.filterMap_map]
    exact List.filterMap_eq_map_iff_forall_eq_some.mpr fun d _ => ctrlMatch_reply d _ _
  have hreply : polls s.frames (ctrlMatch 0x0001) 12
      (initMatch (succPktId s.pcktid) p.root.bt) 16
      (p₂.next ((front.map say ++ [say p.root]) ++ behind.map say))
        = (.ok initReply, p₂.next (behind.map say)) := by
    refine polls_eq_ok_iff.mpr ⟨front.map say, say p.root, say p.root,
      (p₂.next []).delivers _ _ _, ?_, ?_, ?_, ctrlMatch_reply _ _ _, hmatch⟩
    · refine shortGaps_of_matches (by decide) fun raw hraw => ?_
      obtain ⟨d, -, rfl⟩ := List.mem_map.mp hraw
      rw [ctrlMatch_reply]
      exact Option.some_ne_none _
    · rw [hfilter, List.length_map]
      omega
    · intro raw hraw
      rw [hfilter] at hraw
      obtain ⟨d, hd, rfl⟩ := List.mem_map.mp hraw
      exact (initMatch_reply hid d p.root.bt).1 (hothers d hd)
  have hlogoff : Transport.sendFrame (p₂.next (behind.map say)) s.logoffWire
      = (.ok s.logoffWire.length, p₃.next (behind.map say)) := by
    show (_, p₃.next (behind.map say ++ Piconet.replies _ s.logoffWire)) = _
    rw [replies_logoffWire, List.append_nil]
  have hlogon : Transport.sendFrame (p₃.next (behind.map say)) (s.logonWire nowEpoch)
      = (.ok (s.logonWire nowEpoch).length, p₄.next (s.atLogonInbox behind (p.order p₄.round))) := by
    show (_, p₄.next (behind.map say ++ Piconet.replies _ (s.logonWire nowEpoch))) = _
    rw [replies_logonWire]
    rfl
  exact ⟨behind, p.order p₄.round, initReply, p₄, by omega, p.order_perm _, hsusy, hserial, rfl,
    run_handshake_to_logon hver hhello p.parse_hello rfl hlong.ge (hfirmware ▸ p.firmware.property)
      hecho htopology hinit hreply hlogoff hlogon⟩

/-! ### The logon -/

theorem foreign_reply {pktId : UInt16} (d : Device) {req : L2Header}
    (hid : wirePktId req.pktId ≠ pktId) (code : UInt16) : Foreign pktId (d.reply req code []) := by
  obtain ⟨frame, hdr, hparse, -, hctrl, -, hdec, hpkt, -⟩ := d.parse_reply req code
    (by decide : ([] : List UInt8).length ≤ 32000)
  exact ⟨frame, hdr, [], hparse, hctrl, hdec, hpkt ▸ hid⟩

theorem isLogonReply_reply {pktId : UInt16} (d : Device) {req : L2Header}
    (hid : wirePktId req.pktId = pktId) (code : UInt16) :
    IsLogonReply pktId (d.reply req code []) code := by
  obtain ⟨frame, hdr, hparse, -, hctrl, -, hdec, hpkt, hcode, -⟩ :=
    d.parse_reply req code (by decide : ([] : List UInt8).length ≤ 32000)
  exact ⟨frame, hdr, [], hparse, hctrl, hdec, hpkt.trans hid, hcode⟩

/-- The logon replies of the devices, each with its code. -/
def logonAnswers (s : Session Piconet) (devices : List Device) : List (List UInt8 × UInt16) :=
  devices.map fun d => (d.reply s.logonRequest d.logonCode [], d.logonCode)

theorem logonRequest_id (hn : s.pcktid.toNat + 3 < 32768) :
    wirePktId s.logonRequest.pktId = s.logonPktId :=
  wirePktId_request (show s.logonPktId.toNat < 32768 by rw [(handshake_ids hn).2]; exact hn)

theorem logonAnswers_replies (hn : s.pcktid.toNat + 3 < 32768) (devices : List Device) :
    ∀ r ∈ s.logonAnswers devices, IsLogonReply s.logonPktId r.1 r.2 := by
  intro r hr
  obtain ⟨d, -, rfl⟩ := List.mem_map.mp hr
  exact isLogonReply_reply d (logonRequest_id hn) d.logonCode

theorem atLogonInbox_eq (behind devices : List Device) :
    s.atLogonInbox behind devices
      = behind.map (fun d => d.reply s.initRequest 0 []) ++ (s.logonAnswers devices).map Prod.fst := by
  rw [atLogonInbox, logonAnswers, List.map_map]
  rfl

/-- The logon loop gets past the late init replies. -/
theorem run_logonReplyLoop_late (hn : s.pcktid.toNat + 3 < 32768) (s₁ : Session Piconet) {q : Piconet}
    {behind : List Device} {rest : List (List UInt8)}
    (hs₁ : s₁.transport = q.next (behind.map (fun d => d.reply s.initRequest 0 []) ++ rest))
    {n : Nat} (last : Option L2Reply) :
    (logonReplyLoop s.logonPktId (behind.length + n) last).run s₁
      = (logonReplyLoop s.logonPktId n last).run { s₁ with transport := q.next rest } := by
  obtain ⟨hinitId, hlogonId⟩ := handshake_ids hn
  have hid : wirePktId s.initRequest.pktId = succPktId s.pcktid :=
    wirePktId_request (show (succPktId s.pcktid).toNat < 32768 by omega)
  have hforeign : ∀ raw ∈ behind.map (fun d => d.reply s.initRequest 0 []),
      Foreign s.logonPktId raw := by
    intro raw hraw
    obtain ⟨d, -, rfl⟩ := List.mem_map.mp hraw
    refine foreign_reply d (fun hsame => ?_) 0
    rw [hid, ← UInt16.toNat_inj] at hsame
    omega
  have hdel : Delivers s₁.frames s₁.transport (behind.map fun d => d.reply s.initRequest 0 [])
      (q.next rest) := by
    rw [hs₁]
    exact (q.next []).delivers _ _ _
  rw [← run_logonReplyLoop_foreign hforeign hdel n last, List.length_map]

/-- **A client that is let in.**  If some device accepts the logon, the handshake with up to eight
    devices succeeds, whatever the order in which they answer and whoever rejects it, and the
    session has the root's identity. -/
theorem handshake_admitted (hempty : s.transport.inbox = []) (hn : s.pcktid.toNat + 4 < 32768)
    (hsize : s.transport.devices.length ≤ 8) (hadmits : ∃ d ∈ s.transport.devices, d.logonCode = 0)
    (nowEpoch : UInt32) :
    ∃ s', (handshakeAndLogon nowEpoch).run s = .ok () s' ∧
      Attached s.transport s' ∧ s'.pcktid = s.logonPktId := by
  have hlow : s.pcktid.toNat + 3 < 32768 := by omega
  have hids := (handshake_ids hlow).2
  have hfirst : (succPktId s.logonPktId).toNat = s.pcktid.toNat + 4 := by
    rw [succPktId_toNat, hids]
    omega
  obtain ⟨behind, devices, initReply, q, hbehind, hperm, hsusy, hserial, hq, hrun⟩ :=
    handshake_reaches_logon hempty hlow (by omega) nowEpoch
  have hlen := hperm.length_eq
  -- the first device that accepts
  obtain ⟨d₀, hd₀, hcode₀⟩ := hadmits
  cases hfind : devices.find? (fun d => d.logonCode = 0) with
  | none =>
    have hnot := List.find?_eq_none.mp hfind d₀ (hperm.mem_iff.mpr hd₀)
    exact absurd (decide_eq_true hcode₀) hnot
  | some d =>
    obtain ⟨hd, rejecting, later, rfl, hrejecting⟩ := List.find?_eq_some_iff_append.mp hfind
    have hcode : d.logonCode = 0 := of_decide_eq_true hd
    rw [List.length_append, List.length_cons] at hlen
    let left : List (List UInt8) := later.map fun d => d.reply s.logonRequest d.logonCode []
    let s₁ := s.atLogon initReply (q.next (s.atLogonInbox behind (rejecting ++ d :: later)))
    have hinbox : s.atLogonInbox behind (rejecting ++ d :: later)
        = behind.map (fun d => d.reply s.initRequest 0 []) ++
          (((s.logonAnswers rejecting).map Prod.fst ++ [d.reply s.logonRequest d.logonCode []]) ++
            left) := by
      rw [atLogonInbox_eq, logonAnswers, logonAnswers, List.map_append, List.map_append, List.map_cons,
        List.map_cons, List.append_assoc (List.map Prod.fst _), List.singleton_append, List.map_map,
        List.map_map]
      rfl
    have hreject : ∀ r ∈ s.logonAnswers rejecting, IsLogonReply s.logonPktId r.1 r.2 ∧ r.2 ≠ 0 := by
      intro r hr
      refine ⟨logonAnswers_replies hlow rejecting r hr, ?_⟩
      obtain ⟨e, he, rfl⟩ := List.mem_map.mp hr
      simpa using hrejecting e he
    have haccept := isLogonReply_reply d (logonRequest_id hlow) d.logonCode
    rw [hcode] at haccept
    have hdel : Delivers s.frames (q.next (((s.logonAnswers rejecting).map Prod.fst ++
        [d.reply s.logonRequest 0 []]) ++ left))
        ((s.logonAnswers rejecting).map Prod.fst ++ [d.reply s.logonRequest 0 []]) (q.next left) :=
      (q.next []).delivers _ _ _
    obtain ⟨reply, last, hloop⟩ := run_logonReplyLoop_accepted (n := 16 - behind.length)
      (s := { s₁ with transport := q.next _ }) hreject haccept hdel
      (by rw [logonAnswers, List.length_map]; omega) none
    have hlate := run_logonReplyLoop_late hlow s₁ (n := 16 - behind.length)
      (congrArg q.next hinbox) none
    rw [show behind.length + (16 - behind.length) = 16 by omega, hcode] at hlate
    have hlogon : (recvLogonReply s.logonPktId).run s₁ = .ok reply { s₁ with transport := q.next left } := by
      rw [recvLogonReply, bind_of_ok (hlate.trans hloop)]
      rfl
    refine ⟨_, hrun.trans (bind_of_ok hlogon _), ?_, rfl⟩
    exact {
      loggedIn := rfl
      susyId := hsusy
      serial := hserial
      devices := hq
      few := by
        show left.length < 16
        rw [List.length_map]
        omega
      noise := by
        show Noise (succPktId s.logonPktId) left
        intro raw hraw hsame
        obtain ⟨e, -, rfl⟩ := List.mem_map.mp hraw
        rw [e.pktIdOf_reply _ _ (by decide), logonRequest_id hlow, Option.some.injEq,
          ← UInt16.toNat_inj] at hsame
        omega
      clear := by
        intro hhigh
        have hle : 32768 ≤ (succPktId s.logonPktId).toNat := hhigh
        omega }

/-- **A client that is not let in.**  If every device rejects the logon, the handshake fails with the
    code of one of them. -/
theorem handshake_refused (hempty : s.transport.inbox = []) (hn : s.pcktid.toNat + 3 < 32768)
    (hsize : s.transport.devices.length ≤ 8) (hrefuses : ∀ d ∈ s.transport.devices, d.logonCode ≠ 0)
    (nowEpoch : UInt32) :
    ∃ d ∈ s.transport.devices, ∃ s',
      (handshakeAndLogon nowEpoch).run s = .error (.logonFailed d.logonCode) s' := by
  obtain ⟨behind, devices, initReply, q, hbehind, hperm, -, -, -, hrun⟩ :=
    handshake_reaches_logon hempty hn (by omega) nowEpoch
  have hlen := hperm.length_eq
  let s₁ := s.atLogon initReply (q.next (s.atLogonInbox behind devices))
  let s₂ := { s₁ with transport := q.next ((s.logonAnswers devices).map Prod.fst) }
  have hlate := run_logonReplyLoop_late hn s₁ (n := 16 - behind.length)
    (congrArg q.next (atLogonInbox_eq behind devices)) none
  rw [show behind.length + (16 - behind.length) = 16 by omega] at hlate
  have hsilent : ThenSilent s₂ ((s.logonAnswers devices).map Prod.fst) :=
    ⟨q.next [], q.next [], s₂.cfg.timeoutMs, q.next_delivers _ _, rfl⟩
  obtain ⟨accepted, rejected, s', hloop, hacc, hrej⟩ := run_logonReplyLoop
    (n := 16 - behind.length) (logonAnswers_replies hn devices)
    (by rw [logonAnswers, List.length_map]; omega) hsilent none
  have hcodes : (s.logonAnswers devices).map Prod.snd = devices.map Device.logonCode := by
    rw [logonAnswers, List.map_map]
    rfl
  have hnone : 0 ∉ (s.logonAnswers devices).map Prod.snd := by
    rw [hcodes]
    intro hzero
    obtain ⟨d, hd, hcode⟩ := List.mem_map.mp hzero
    exact hrefuses d (hperm.mem_iff.mp hd) hcode
  have hlast := hrej hnone
  rw [lastCode, Option.map_none, Option.or_none, hcodes] at hlast
  have hne : devices ≠ [] := List.ne_nil_of_mem (hperm.mem_iff.mpr s.transport.root_mem)
  obtain ⟨d, hd⟩ : ∃ d, devices.getLast? = some d := ⟨_, List.getLast?_eq_some_getLast hne⟩
  rw [List.getLast?_map, hd, Option.map_some] at hlast
  obtain ⟨rej, rfl, hcode⟩ := Option.map_eq_some_iff.mp hlast
  have haccepted : accepted = none := by
    cases accepted with
    | none => rfl
    | some reply => exact absurd (hacc.mp rfl) hnone
  refine ⟨d, hperm.mem_iff.mp (List.mem_of_getLast? hd), s', hrun.trans (bind_of_error ?_ _)⟩
  rw [recvLogonReply, bind_of_ok (hlate.trans hloop), haccepted, ← hcode]
  simp only
  split
  · rename_i hinvalid
    rw [hinvalid]
    rfl
  · rfl

/-! ## A whole session -/

/-- **Client and inverters.**  A session over a piconet of up to eight devices logs in exactly if one of
    them lets it in.  It then has the root's identity, and every request of any run is answered with
    what the device it is addressed to has to say, or with silence in the request's own phase if that
    is nothing or if its packet id does not fit 15 bits. -/
theorem session_serves (hempty : s.transport.inbox = []) (hn : s.pcktid.toNat + 4 < 32768)
    (hsize : s.transport.devices.length ≤ 8) (nowEpoch : UInt32) :
    ((∃ s', (handshakeAndLogon nowEpoch).run s = .ok () s') ↔
        ∃ d ∈ s.transport.devices, d.logonCode = 0) ∧
      ∀ s', (handshakeAndLogon nowEpoch).run s = .ok () s' →
        s'.inverterSusyId = s.transport.root.susyId ∧ s'.inverterSerial = s.transport.root.serial ∧
          ∀ rs : List Request, (∀ r ∈ rs, r.Targeted) →
            responses rs s' = s.transport.answersTo s.logonPktId rs := by
  have hrefused : (¬ ∃ d ∈ s.transport.devices, d.logonCode = 0) →
      ¬ ∃ s', (handshakeAndLogon nowEpoch).run s = .ok () s' := by
    rintro hnone ⟨s', hok⟩
    obtain ⟨d, -, s'', herror⟩ := handshake_refused hempty (by omega) hsize
      (fun d hd hcode => hnone ⟨d, hd, hcode⟩) nowEpoch
    rw [hok] at herror
    nomatch herror
  constructor
  · constructor
    · intro hok
      by_contra hnone
      exact hrefused hnone hok
    · intro hadmits
      obtain ⟨s', hok, -, -⟩ := handshake_admitted hempty hn hsize hadmits nowEpoch
      exact ⟨s', hok⟩
  · intro s' hok
    have hadmits : ∃ d ∈ s.transport.devices, d.logonCode = 0 := by
      by_contra hnone
      exact hrefused hnone ⟨s', hok⟩
    obtain ⟨s'', hok', hattached, hid⟩ := handshake_admitted hempty hn hsize hadmits nowEpoch
    rw [hok] at hok'
    obtain ⟨-, rfl⟩ := EStateM.Result.ok.inj hok'
    exact ⟨hattached.susyId, hattached.serial, fun rs hrs => hid ▸ hattached.responses_eq hrs⟩

/-- Two inverters behind one repeater: the first says hello, the second still has a session open with
    another client.  Each answers with its own serial's low byte. -/
def samplePiconet : Piconet where
  devices :=
    [⟨.fill 1, 131, 2120121246, 0, fun _ _ _ => some ⟨[0x9E], by decide⟩, fun _ _ => none⟩,
      ⟨.fill 3, 131, 2120121383, 1, fun _ _ _ => some ⟨[0x27], by decide⟩, fun _ _ => none⟩]
  root := ⟨.fill 1, 131, 2120121246, 0, fun _ _ _ => some ⟨[0x9E], by decide⟩, fun _ _ => none⟩
  root_mem := List.mem_cons_self
  addresses_nodup := by decide
  serials_nodup := by decide
  serials_plain := by simp [anySerial]
  netId := 2
  firmware := ⟨4, by decide⟩
  order _ :=
    [⟨.fill 3, 131, 2120121383, 1, fun _ _ _ => some ⟨[0x27], by decide⟩, fun _ _ => none⟩,
      ⟨.fill 1, 131, 2120121246, 0, fun _ _ _ => some ⟨[0x9E], by decide⟩, fun _ _ => none⟩]
  order_perm _ := List.Perm.swap _ _ []
  round := 0
  inbox := []

/-- The first device, the second, one that is not there, and an event log that is empty. -/
def sampleRequests : List Request :=
  [.query .spotAcTotalPower, .queryForDevice 131 2120121383 .spotAcTotalPower,
    .queryForDevice 131 7 .spotAcTotalPower, .queryEventLogForDevice 131 2120121246 0 86400]

theorem session_serves_two_inverters :
    ∃ s', (handshakeAndLogon 0).run
        (newWithAppSerial samplePiconet ⟨.fill 1, .fill 2, "0000", .user, 1000⟩ 900000000) = .ok () s' ∧
      s'.inverterSerial = 2120121246 ∧
      responses sampleRequests s'
        = [.ok [0x9E], .ok [0x27], .error (.silent "query"), .error (.silent "event-log")] := by
  have hserves := session_serves
    (s := newWithAppSerial samplePiconet ⟨.fill 1, .fill 2, "0000", .user, 1000⟩ 900000000)
    rfl (by decide) (by decide) 0
  obtain ⟨s', hok⟩ := hserves.1.mpr ⟨_, List.mem_cons_self, rfl⟩
  obtain ⟨-, hserial, hresponses⟩ := hserves.2 s' hok
  exact ⟨s', hok, hserial, hresponses sampleRequests (by decide)⟩

end Session

end HassSma
