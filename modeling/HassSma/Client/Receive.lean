/-
  What the receive loops return.

  Each bounded loop of the session is a `Polling.poll` of its transport with a matcher that looks at
  one frame: `ctrlMatch` for a control word, `pktIdMatch` for a packet id.  So what a loop returns is a
  statement about the list of frames the transport delivers (`run_recvUntilL1Ctrl`,
  `run_recvL2WithPktId`), and a query succeeds exactly when its frame goes out and a frame with its
  packet id comes back in reach (`run_queryForDevice_ok_iff`).  What stands in front of the reply
  only uses up attempts (`recvL2WithPktId_through_noise`).
-/
import HassSma.Client.Session

namespace HassSma

open Bytes Fallible Polling

namespace Session

variable {T : Type} [Transport T]

/-- The transport as a source of frames, as the session asks it. -/
def frames (s : Session T) : T → Except TransportError (List UInt8) × T :=
  fun t => Transport.recvFrame t s.cfg.timeoutMs

/-- A poll of the transport as the session reports it. -/
def polled {α : Type} (phase : String) (s : Session T) :
    Except (Option TransportError) α × T → EStateM.Result SessionError (Session T) α
  | (.ok a, t) => .ok a { s with transport := t }
  | (.error (some e), t) => .error (recvError phase e) { s with transport := t }
  | (.error none, t) => .error (.silent phase) { s with transport := t }

omit [Transport T] in
/-- A poll that the session reports as a success has found its frame. -/
theorem polled_eq_ok {α : Type} {phase : String} {s s' : Session T} {a : α}
    {r : Except (Option TransportError) α × T} :
    polled phase s r = .ok a s' ↔ ∃ t, r = (.ok a, t) ∧ s' = { s with transport := t } := by
  rcases r with ⟨(_ | e) | b, t⟩
  · exact iff_of_false nofun fun ⟨_, h, _⟩ => nomatch h
  · exact iff_of_false nofun fun ⟨_, h, _⟩ => nomatch h
  · constructor
    · intro h
      obtain ⟨rfl, rfl⟩ := EStateM.Result.ok.inj h
      exact ⟨t, rfl, rfl⟩
    · rintro ⟨t', hr, rfl⟩
      obtain ⟨hb, rfl⟩ := Prod.mk.inj hr
      rw [Except.ok.inj hb]
      rfl

/-! ## Matchers -/

/-- A well-formed frame with the control word. -/
def ctrlMatch (wantCtrl : UInt16) (raw : List UInt8) : Option (List UInt8) :=
  match Frame.parse raw with
  | .error _ => none
  | .ok frame => if frame.control = wantCtrl then some raw else none

/-- The L2 header and command body of a well-formed L2 frame. -/
def l2Of (raw : List UInt8) : Option (L2Header × List UInt8) :=
  match Frame.parse raw with
  | .error _ => none
  | .ok frame => if frame.kind ≠ .l2Wrapped then none else decodeL2 frame.payload

theorem l2Of_eq_some {raw : List UInt8} {p : L2Header × List UInt8} :
    l2Of raw = some p ↔ ∃ frame, Frame.parse raw = .ok frame ∧ frame.kind = .l2Wrapped ∧
      decodeL2 frame.payload = some p := by
  rw [l2Of]
  cases Frame.parse raw with
  | error e => simp
  | ok frame => by_cases hkind : frame.kind = .l2Wrapped <;> simp [hkind]

/-- What decodes as an L2 packet came out of an L2 frame: an L1-only payload has no signature. -/
theorem l2Of_of_decodeL2 {raw : List UInt8} {frame : Frame} {p : L2Header × List UInt8}
    (hparse : Frame.parse raw = .ok frame) (hdec : decodeL2 frame.payload = some p) :
    l2Of raw = some p := by
  rcases kind_of_parse hparse with hkind | ⟨hoff, hpayload⟩
  · exact l2Of_eq_some.mpr ⟨frame, hparse, hkind, hdec⟩
  · rw [hpayload, decodeL2, List.length_drop] at hdec
    split at hdec
    · cases hdec
    · rename_i hlen
      split at hdec
      · cases hdec
      · rename_i hsig
        rw [l2SigOffset, if_pos ⟨by omega, not_not.mp hsig⟩] at hoff
        cases hoff

/-- A well-formed L2 frame with the packet id. -/
def pktIdMatch (wantPktId : UInt16) (raw : List UInt8) : Option (List UInt8 × L2Reply) :=
  match l2Of raw with
  | none => none
  | some (hdr, data) => if hdr.pktId = wantPktId then some (raw, replyOf hdr data) else none

theorem ctrlMatch_eq_some {wantCtrl : UInt16} {raw bytes : List UInt8} :
    ctrlMatch wantCtrl raw = some bytes ↔
      bytes = raw ∧ ∃ frame, Frame.parse raw = .ok frame ∧ frame.control = wantCtrl := by
  rw [ctrlMatch]
  cases hparse : Frame.parse raw with
  | error e => simp
  | ok frame => simp [eq_comm, and_comm]

theorem pktIdMatch_eq_some {wantPktId : UInt16} {raw bytes : List UInt8} {reply : L2Reply} :
    pktIdMatch wantPktId raw = some (bytes, reply) ↔
      bytes = raw ∧ ∃ hdr data, l2Of raw = some (hdr, data) ∧ hdr.pktId = wantPktId ∧
        reply = replyOf hdr data := by
  rw [pktIdMatch]
  cases hl2 : l2Of raw with
  | none => simp
  | some p =>
    obtain ⟨hdr, data⟩ := p
    by_cases hid : hdr.pktId = wantPktId
    · simp [hid, eq_comm]
    · constructor
      · intro h
        simp [hid] at h
      · rintro ⟨-, hdr', data', heq, hid', -⟩
        obtain ⟨rfl, rfl⟩ := Prod.mk.inj (Option.some.inj heq)
        exact absurd hid' hid

/-- The packet id and the body of a decoded packet, read off its bytes. -/
theorem pktId_of_decodeL2 {payload data : List UInt8} {hdr : L2Header}
    (h : decodeL2 payload = some (hdr, data)) :
    hdr.pktId = wirePktId (readU16 (slice payload 26 28)) ∧ data = payload.drop 28 := by
  obtain ⟨-, -, rfl, rfl⟩ := decodeL2_eq_some_iff.mp h
  exact ⟨rfl, rfl⟩

/-! ## Packets on the wire -/

/-- The builder's frame around a packet of reasonable size is parsed back. -/
theorem parse_l2Wire (localBt : BtAddr) (hdr : L2Header) {body : List UInt8}
    (hlen : body.length ≤ 32000) :
    Frame.parse (l2Wire localBt (encodeL2 hdr body))
      = .ok ⟨.l2Wrapped, localBt, .fill 0xFF, 0x0001, encodeL2 hdr body⟩ := by
  have hpayload : (encodeL2 hdr body).length ≤ 32700 := by
    rw [length_encodeL2]
    omega
  exact FrameBuilder.parse_build
    (b := (FrameBuilder.new localBt (.fill 0xFF) 0x0001).extend (encodeL2 hdr body)) rfl
    (sig_prefix_encodeL2 hdr body) hpayload

theorem l2Of_l2Wire (localBt : BtAddr) (hdr : L2Header) {body : List UInt8}
    (hlen : body.length ≤ 32000) :
    l2Of (l2Wire localBt (encodeL2 hdr body))
      = some ({ hdr with pktId := wirePktId hdr.pktId }, body) := by
  rw [l2Of, parse_l2Wire localBt hdr hlen]
  simp only
  rw [if_neg (not_not_intro rfl), decodeL2_encodeL2]

/-- The packet-id field of a well-formed L2 frame, as it stands on the wire. -/
def l2FieldOf (raw : List UInt8) : Option UInt16 :=
  match Frame.parse raw with
  | .error _ => none
  | .ok frame =>
    if frame.kind ≠ .l2Wrapped then none
    else (decodeL2 frame.payload).map fun _ => readU16 (slice frame.payload 26 28)

/-- The header's packet id is the field without its top bit. -/
theorem pktId_of_field {raw data : List UInt8} {hdr : L2Header} {field : UInt16}
    (hl2 : l2Of raw = some (hdr, data)) (hfield : l2FieldOf raw = some field) :
    hdr.pktId = wirePktId field := by
  obtain ⟨frame, hparse, hkind, hdec⟩ := l2Of_eq_some.mp hl2
  rw [l2FieldOf, hparse] at hfield
  simp only at hfield
  rw [if_neg (not_not_intro hkind), hdec, Option.map_some] at hfield
  rw [(pktId_of_decodeL2 hdec).1, Option.some.inj hfield]

theorem l2FieldOf_l2Wire (localBt : BtAddr) (hdr : L2Header) {body : List UInt8}
    (hlen : body.length ≤ 32000) :
    l2FieldOf (l2Wire localBt (encodeL2 hdr body)) = some (hdr.pktId ||| appPacketBit) := by
  have hid : slice (encodeL2 hdr body) 26 28 = writeU16 (hdr.pktId ||| appPacketBit) := rfl
  rw [l2FieldOf, parse_l2Wire localBt hdr hlen]
  simp only
  rw [if_neg (not_not_intro rfl), decodeL2_encodeL2, Option.map_some, hid, readU16_writeU16]

/-! ## The loops are polls -/

theorem run_sendFrame (data : List UInt8) (s : Session T) :
    (sendFrame data).run s =
      match Transport.sendFrame s.transport data with
      | (.ok n, t) => .ok n { s with transport := t }
      | (.error e, t) => .error (.transport e) { s with transport := t } := rfl

/-- A send moves the transport and nothing else, whether it succeeds or not. -/
theorem final_sendFrame (data : List UInt8) (s : Session T) :
    final ((sendFrame data).run s)
      = { s with transport := (Transport.sendFrame s.transport data).2 } := by
  rw [run_sendFrame]
  rcases Transport.sendFrame s.transport data with ⟨e | n, t⟩ <;> rfl

theorem run_recvFrame (phase : String) (s : Session T) :
    (recvFrame phase).run s =
      match s.frames s.transport with
      | (.ok raw, t) => .ok raw { s with transport := t }
      | (.error e, t) => .error (recvError phase e) { s with transport := t } := rfl

theorem final_recvFrame (phase : String) (s : Session T) :
    final ((recvFrame phase).run s) = { s with transport := (s.frames s.transport).2 } := by
  rw [run_recvFrame]
  rcases s.frames s.transport with ⟨e | raw, t⟩ <;> rfl

theorem run_recvUntilL1CtrlLoop (wantCtrl : UInt16) (phase : String) (n : Nat) (s : Session T) :
    (recvUntilL1CtrlLoop wantCtrl phase n).run s
      = polled phase s (poll s.frames (ctrlMatch wantCtrl) n s.transport) := by
  induction n generalizing s with
  | zero => rfl
  | succ n ih =>
    rw [recvUntilL1CtrlLoop, EStateM.run_bind, run_recvFrame, poll]
    rcases s.frames s.transport with ⟨e | raw, t⟩
    · rfl
    · simp only [ctrlMatch]
      cases Frame.parse raw with
      | error e => exact ih _
      | ok frame =>
        simp only
        split
        · rfl
        · exact ih _

theorem run_recvUntilL1Ctrl (wantCtrl : UInt16) (phase : String) (s : Session T) :
    (recvUntilL1Ctrl wantCtrl phase).run s
      = polled phase s (poll s.frames (ctrlMatch wantCtrl) 12 s.transport) :=
  run_recvUntilL1CtrlLoop wantCtrl phase 12 s

theorem run_recvL2WithPktIdLoop (wantPktId : UInt16) (phase : String) (n : Nat) (s : Session T) :
    (recvL2WithPktIdLoop wantPktId phase n).run s
      = polled phase s (poll s.frames (pktIdMatch wantPktId) n s.transport) := by
  induction n generalizing s with
  | zero => rfl
  | succ n ih =>
    rw [recvL2WithPktIdLoop, EStateM.run_bind, run_recvFrame, poll]
    rcases s.frames s.transport with ⟨e | raw, t⟩
    · rfl
    · simp only [pktIdMatch, l2Of]
      cases Frame.parse raw with
      | error e => exact ih _
      | ok frame =>
        simp only
        by_cases hkind : frame.kind ≠ .l2Wrapped
        · rw [if_pos hkind, if_pos hkind]
          exact ih _
        · rw [if_neg hkind, if_neg hkind]
          cases decodeL2 frame.payload with
          | none => exact ih _
          | some p =>
            simp only
            split
            · rfl
            · exact ih _

theorem run_recvL2WithPktId (wantPktId : UInt16) (phase : String) (s : Session T) :
    (recvL2WithPktId wantPktId phase).run s
      = polled phase s (poll s.frames (pktIdMatch wantPktId) 16 s.transport) :=
  run_recvL2WithPktIdLoop wantPktId phase 16 s

/-! ## A query -/

/-- The session with one more packet id used. -/
def advance (s : Session T) : Session T := { s with pcktid := succPktId s.pcktid }

/-- The frame a query puts on the wire. -/
def queryWire (s : Session T) (susyId : UInt16) (serial : UInt32) (kind : QueryKind) : List UInt8 :=
  l2Wire s.cfg.localBt (buildQueryBody kind (succPktId s.pcktid) s.appSerial susyId serial)

omit [Transport T] in
theorem run_nextPcktid (s : Session T) :
    (nextPcktid : SessionM T UInt16).run s = .ok (succPktId s.pcktid) s.advance := rfl

omit [Transport T] in
theorem run_ensure_of {c : Prop} [Decidable c] (h : c) (e : SessionError) (s : Session T) :
    (ensure c e).run s = .ok () s := by
  rw [ensure, if_pos h]
  rfl

omit [Transport T] in
theorem run_ensure_not {c : Prop} [Decidable c] (h : ¬ c) (e : SessionError) (s : Session T) :
    (ensure c e).run s = .error e s := by
  rw [ensure, if_neg h]
  rfl

/-- A query on a session that is not logged in does nothing. -/
theorem run_queryForDevice_not_logged_in {s : Session T} (h : s.state ≠ .loggedIn)
    (susyId : UInt16) (serial : UInt32) (kind : QueryKind) :
    (queryForDevice susyId serial kind).run s = .error (.protocol "query-not-logged-in") s := by
  rw [queryForDevice, bind_of_ok (EStateM.run_get s)]
  exact bind_of_error (run_ensure_not h _ s) _

/-- A query on a logged-in session: one frame out, then a poll for its packet id. -/
theorem run_queryForDevice {s : Session T} (h : s.state = .loggedIn)
    (susyId : UInt16) (serial : UInt32) (kind : QueryKind) :
    (queryForDevice susyId serial kind).run s =
      match Transport.sendFrame s.transport (s.queryWire susyId serial kind) with
      | (.error e, t) => .error (.transport e) { s.advance with transport := t }
      | (.ok _, t) =>
        polled "query" s.advance
          (match poll s.frames (pktIdMatch (succPktId s.pcktid)) 16 t with
          | (.ok (_, reply), t') => (.ok reply.body, t')
          | (.error e, t') => (.error e, t')) := by
  rw [queryForDevice, bind_of_ok (EStateM.run_get s), bind_of_ok (run_ensure_of h _ s),
    bind_of_ok (run_nextPcktid s), EStateM.run_bind, ← queryWire]
  have hsend := run_sendFrame (s.queryWire susyId serial kind) s.advance
  rw [show s.advance.transport = s.transport from rfl] at hsend
  rw [hsend]
  rcases Transport.sendFrame s.transport (s.queryWire susyId serial kind) with ⟨e | n, t⟩
  · rfl
  · simp only
    have hrecv : (recvL2WithPktId (succPktId s.pcktid) "query").run
        { s.advance with transport := t }
          = polled "query" s.advance (poll s.frames (pktIdMatch (succPktId s.pcktid)) 16 t) :=
      run_recvL2WithPktId _ _ _
    rw [EStateM.run_bind, hrecv]
    rcases poll s.frames (pktIdMatch (succPktId s.pcktid)) 16 t with ⟨(_ | e) | ⟨raw, reply⟩, t'⟩ <;>
      rfl

/-- The exchange of one query: its frame goes out, then the transport hands over `others`, none
    of which carries the request's packet id, and then `raw`. -/
structure Exchange (s : Session T) (susyId : UInt16) (serial : UInt32) (kind : QueryKind)
    (others : List (List UInt8)) (raw : List UInt8) (t : T) : Prop where
  delivers : ∃ n t₁, Transport.sendFrame s.transport (s.queryWire susyId serial kind) = (.ok n, t₁) ∧
    Delivers s.frames t₁ (others ++ [raw]) t
  few : others.length < 16
  skipped : ∀ o ∈ others, pktIdMatch (succPktId s.pcktid) o = none

/-- **When a query succeeds**: it goes out, and the first frame that carries its packet id is among
    the next sixteen, with no receive error before. -/
theorem run_queryForDevice_ok_iff {s s' : Session T} (h : s.state = .loggedIn) {susyId : UInt16}
    {serial : UInt32} {kind : QueryKind} {body : List UInt8} :
    (queryForDevice susyId serial kind).run s = .ok body s' ↔
      ∃ others raw t hdr, Exchange s susyId serial kind others raw t ∧ l2Of raw = some (hdr, body) ∧
        hdr.pktId = succPktId s.pcktid ∧ s' = { s.advance with transport := t } := by
  rw [run_queryForDevice h]
  constructor
  · intro hrun
    rcases hsend : Transport.sendFrame s.transport (s.queryWire susyId serial kind)
      with ⟨e | n, t₁⟩
    · rw [hsend] at hrun
      nomatch hrun
    · rw [hsend] at hrun
      simp only at hrun
      obtain ⟨t, hbody, rfl⟩ := polled_eq_ok.mp hrun
      rcases hpoll : poll s.frames (pktIdMatch (succPktId s.pcktid)) 16 t₁
        with ⟨e | ⟨bytes, reply⟩, t'⟩
      · rw [hpoll] at hbody
        nomatch hbody
      · rw [hpoll] at hbody
        obtain ⟨hreply, rfl⟩ := Prod.mk.inj hbody
        obtain rfl := Except.ok.inj hreply
        obtain ⟨others, raw, hfew, hdel, hskip, hmatch⟩ := poll_eq_ok_iff.mp hpoll
        obtain ⟨-, hdr, data, hl2, hid, rfl⟩ := pktIdMatch_eq_some.mp hmatch
        exact ⟨others, raw, t', hdr, ⟨⟨n, t₁, hsend, hdel⟩, hfew, hskip⟩, hl2, hid, rfl⟩
  · rintro ⟨others, raw, t, hdr, ⟨⟨n, t₁, hsend, hdel⟩, hfew, hskip⟩, hl2, hid, rfl⟩
    have hmatch : pktIdMatch (succPktId s.pcktid) raw = some (raw, replyOf hdr body) :=
      pktIdMatch_eq_some.mpr ⟨rfl, hdr, body, hl2, hid, rfl⟩
    rw [hsend]
    simp only [poll_found hdel hskip hmatch hfew]
    rfl

/-- **No reply to a large id**: past 15 bits nothing that comes back can match. -/
theorem pktIdMatch_eq_none_of_large {id : UInt16} (hid : 32768 ≤ id.toNat) (raw : List UInt8) :
    pktIdMatch id raw = none := by
  cases hmatch : pktIdMatch id raw with
  | none => rfl
  | some p =>
    obtain ⟨-, hdr, data, hl2, hpkt, -⟩ := pktIdMatch_eq_some.mp hmatch
    obtain ⟨frame, -, -, hdec⟩ := l2Of_eq_some.mp hl2
    have hlt := wirePktId_toNat (readU16 (slice frame.payload 26 28))
    rw [← (pktId_of_decodeL2 hdec).1, hpkt] at hlt
    omega

/-! ## What receiving keeps -/

section Keeps

-- what each receive keeps, every loop of them keeps
variable {R : Session T → Session T → Prop} (hrefl : ∀ s, R s s)
  (htrans : ∀ {s t u}, R s t → R t u → R s u)
  (hrecv : ∀ phase, Keeps R (recvFrame phase : SessionM T (List UInt8)))
include hrefl htrans hrecv

theorem keeps_recvUntilL1Ctrl (wantCtrl : UInt16) (phase : String) :
    Keeps R (recvUntilL1Ctrl wantCtrl phase : SessionM T _) := by
  rw [recvUntilL1Ctrl]
  generalize 12 = n
  induction n with
  | zero => exact keeps_throw hrefl _
  | succ n ih =>
    refine Keeps.bind (R := R) htrans (hrecv phase) fun bytes => ?_
    cases Frame.parse bytes with
    | error e => exact ih
    | ok frame =>
      simp only
      split
      · exact keeps_pure hrefl _
      · exact ih

theorem keeps_recvInitFromTarget (wantPktId : UInt16) (targetBt : BtAddr) :
    Keeps R (recvInitFromTarget wantPktId targetBt : SessionM T _) := by
  rw [recvInitFromTarget]
  generalize 16 = n
  induction n with
  | zero => exact keeps_throw hrefl _
  | succ n ih =>
    refine Keeps.bind (R := R) htrans (keeps_recvUntilL1Ctrl hrefl htrans hrecv _ _) fun bytes => ?_
    cases Frame.parse bytes with
    | error e => exact ih
    | ok frame =>
      simp only
      cases decodeL2 frame.payload with
      | none => exact ih
      | some p =>
        simp only
        split
        · exact ih
        · split
          · exact ih
          · exact keeps_pure hrefl _

theorem keeps_logonReplyLoop (pktId : UInt16) (n : Nat) (last : Option L2Reply) :
    Keeps R (logonReplyLoop pktId n last : SessionM T _) := by
  induction n generalizing last with
  | zero => exact keeps_pure hrefl _
  | succ n ih =>
    refine Keeps.bind (R := R) htrans (keeps_recvUntilL1Ctrl hrefl htrans hrecv _ _).attempt
      fun outcome => ?_
    cases outcome with
    | error e => exact keeps_pure hrefl _
    | ok bytes =>
      simp only
      cases Frame.parse bytes with
      | error e => exact ih _
      | ok frame =>
        simp only
        cases decodeL2 frame.payload with
        | none => exact ih _
        | some p =>
          simp only
          split
          · exact ih _
          · split
            · exact keeps_pure hrefl _
            · exact ih _

theorem keeps_recvLogonReply (pktId : UInt16) :
    Keeps R (recvLogonReply pktId : SessionM T _) := by
  refine Keeps.bind (R := R) htrans (keeps_logonReplyLoop hrefl htrans hrecv _ _ _) fun outcome => ?_
  rcases outcome with ⟨_ | reply, _ | rej⟩
  · exact keeps_throw hrefl _
  · simp only
    split <;> exact keeps_throw hrefl _
  · exact keeps_pure hrefl _
  · exact keeps_pure hrefl _

theorem keeps_recvL2WithPktId (wantPktId : UInt16) (phase : String) :
    Keeps R (recvL2WithPktId wantPktId phase : SessionM T _) := by
  rw [recvL2WithPktId]
  generalize 16 = n
  induction n with
  | zero => exact keeps_throw hrefl _
  | succ n ih =>
    refine Keeps.bind (R := R) htrans (hrecv phase) fun bytes => ?_
    cases Frame.parse bytes with
    | error e => exact ih
    | ok frame =>
      simp only
      split
      · exact ih
      · cases decodeL2 frame.payload with
        | none => exact ih
        | some p =>
          simp only
          split
          · exact keeps_pure hrefl _
          · exact ih

theorem keeps_collectFragments (pktId : UInt16) (n : Nat) (aggregated : List UInt8) :
    Keeps R (collectFragments pktId n aggregated : SessionM T _) := by
  induction n generalizing aggregated with
  | zero => exact keeps_pure hrefl aggregated
  | succ n ih =>
    refine Keeps.bind (R := R) htrans (keeps_recvL2WithPktId hrefl htrans hrecv pktId _) ?_
    rintro ⟨raw, reply⟩
    simp only
    split
    · exact keeps_throw hrefl _
    · split
      · exact keeps_pure hrefl _
      · split
        · exact keeps_pure hrefl _
        · exact ih _

end Keeps

/-! ## A scripted session -/

/-- A logged-in session over a mock with scripted replies. -/
def mockSession (pcktid : UInt16) (replies : List (List UInt8)) : Session MockTransport :=
  { transport := ⟨replies, [], false⟩
    cfg := ⟨.fill 0, .fill 0, "", .user, 1000⟩
    state := .loggedIn
    appSerial := 900000000
    pcktid := pcktid
    inverterSusyId := 0
    inverterSerial := 0 }

/-- A reply packet from device `serial` to the application. -/
def mockReply (serial : UInt32) (pktId : UInt16) (body : List UInt8) : List UInt8 :=
  l2Wire (.fill 1) (encodeL2 (.query pktId serial 125 900000000) body)

theorem l2Of_mockReply (serial : UInt32) (pktId : UInt16) {body : List UInt8}
    (hlen : body.length ≤ 32000) :
    l2Of (mockReply serial pktId body)
      = some (.query (wirePktId pktId) serial 125 900000000, body) := l2Of_l2Wire _ _ hlen

/-! ## Noise in front of a reply -/

/-- The packet id that a frame decodes to, if it is an L2 packet at all. -/
def pktIdOf (raw : List UInt8) : Option UInt16 := (l2Of raw).map fun p => p.1.pktId

/-- None of the frames carries the packet id. -/
def Noise (wantPktId : UInt16) (others : List (List UInt8)) : Prop :=
  ∀ o ∈ others, pktIdOf o ≠ some wantPktId

theorem pktIdMatch_eq_none_iff {wantPktId : UInt16} {raw : List UInt8} :
    pktIdMatch wantPktId raw = none ↔ pktIdOf raw ≠ some wantPktId := by
  rw [pktIdMatch, pktIdOf]
  cases l2Of raw with
  | none => simp
  | some p =>
    obtain ⟨hdr, data⟩ := p
    by_cases hid : hdr.pktId = wantPktId <;> simp [hid]

theorem noise_iff {wantPktId : UInt16} {others : List (List UInt8)} :
    Noise wantPktId others ↔ ∀ o ∈ others, pktIdMatch wantPktId o = none := by
  constructor
  · intro h o ho
    exact pktIdMatch_eq_none_iff.mpr (h o ho)
  · intro h o ho
    exact pktIdMatch_eq_none_iff.mp (h o ho)

section Noise

variable {s : Session T} {wantPktId : UInt16} {noise : List (List UInt8)} {t : T}

/-- The reply is taken as it stands behind the noise. -/
theorem recvL2WithPktId_found {raw body : List UInt8} {hdr : L2Header}
    (hdel : Delivers s.frames s.transport (noise ++ [raw]) t) (hnoise : Noise wantPktId noise)
    (hfew : noise.length < 16) (hl2 : l2Of raw = some (hdr, body)) (hid : hdr.pktId = wantPktId)
    (phase : String) :
    (recvL2WithPktId wantPktId phase).run s
      = .ok (raw, replyOf hdr body) { s with transport := t } := by
  have hmatch : pktIdMatch wantPktId raw = some (raw, replyOf hdr body) :=
    pktIdMatch_eq_some.mpr ⟨rfl, hdr, body, hl2, hid, rfl⟩
  rw [run_recvL2WithPktId, poll_found hdel (noise_iff.mp hnoise) hmatch hfew]
  rfl

/-- Sixteen frames of noise use up the attempts. -/
theorem recvL2WithPktId_used_up (hdel : Delivers s.frames s.transport noise t)
    (hnoise : Noise wantPktId noise) (hlen : noise.length = 16) (phase : String) :
    (recvL2WithPktId wantPktId phase).run s = .error (.silent phase) { s with transport := t } := by
  have hpoll := poll_skip hdel (noise_iff.mp hnoise) 0
  rw [hlen] at hpoll
  rw [run_recvL2WithPktId, hpoll]
  rfl

/-- Fewer of them, and then nothing: the session waits for the next frame until the timeout. -/
theorem recvL2WithPktId_timeout {ms : UInt64} {t' : T}
    (hdel : Delivers s.frames s.transport noise t) (hnoise : Noise wantPktId noise)
    (hlen : noise.length < 16) (hquiet : s.frames t = (.error (.timeout ms), t'))
    (phase : String) :
    (recvL2WithPktId wantPktId phase).run s = .error (.silent phase) { s with transport := t' } := by
  rw [run_recvL2WithPktId, poll_error hdel (noise_iff.mp hnoise) hquiet hlen]
  rfl

end Noise

/-- **Replies are matched through noise.**  Whatever frames come in, the first one with the packet id
    is returned if it is among the first sixteen, and nothing behind it is touched; else the call
    is silent in the caller's phase, behind sixteen frames or behind all of them.  No frame makes it
    fail in another way. -/
theorem recvL2WithPktId_through_noise {s : Session T} {queue : List (List UInt8)} {t : T}
    (hqueue : Delivers s.frames s.transport queue t) (wantPktId : UInt16) (phase : String) :
    (∀ noise raw rest hdr body, queue = noise ++ raw :: rest → noise.length < 16 →
      Noise wantPktId noise → l2Of raw = some (hdr, body) → hdr.pktId = wantPktId →
      ∃ t₁, Delivers s.frames s.transport (noise ++ [raw]) t₁ ∧ Delivers s.frames t₁ rest t ∧
        (recvL2WithPktId wantPktId phase).run s
          = .ok (raw, replyOf hdr body) { s with transport := t₁ }) ∧
    (∀ noise rest, queue = noise ++ rest → noise.length = 16 → Noise wantPktId noise →
      ∃ t₁, Delivers s.frames s.transport noise t₁ ∧ Delivers s.frames t₁ rest t ∧
        (recvL2WithPktId wantPktId phase).run s
          = .error (.silent phase) { s with transport := t₁ }) ∧
    (queue.length < 16 → Noise wantPktId queue →
      ∀ ms t₁, s.frames t = (.error (.timeout ms), t₁) →
        (recvL2WithPktId wantPktId phase).run s
          = .error (.silent phase) { s with transport := t₁ }) ∧
    (16 ≤ queue.length ∨ (∃ ms t₁, s.frames t = (.error (.timeout ms), t₁)) →
      ∀ e s', (recvL2WithPktId wantPktId phase).run s = .error e s' → e = .silent phase) := by
  refine ⟨?_, ?_, ?_, ?_⟩
  · intro noise raw rest hdr body hsplit hfew hnoise hl2 hid
    rw [hsplit, ← List.singleton_append, ← List.append_assoc] at hqueue
    obtain ⟨t₁, hdel, hrest⟩ := hqueue.split
    exact ⟨t₁, hdel, hrest, recvL2WithPktId_found hdel hnoise hfew hl2 hid phase⟩
  · intro noise rest hsplit hlen hnoise
    rw [hsplit] at hqueue
    obtain ⟨t₁, hdel, hrest⟩ := hqueue.split
    exact ⟨t₁, hdel, hrest, recvL2WithPktId_used_up hdel hnoise hlen phase⟩
  · intro hlen hnoise ms t₁ hquiet
    exact recvL2WithPktId_timeout hqueue hnoise hlen hquiet phase
  · -- the first sixteen frames decide: a match among them, or none
    intro hends e s' hrun
    have hparts : queue = queue.take 16 ++ queue.drop 16 := (List.take_append_drop 16 queue).symm
    rw [hparts] at hqueue
    obtain ⟨t₁, hfront, hback⟩ := hqueue.split
    have htake : (queue.take 16).length = min 16 queue.length := List.length_take
    rcases none_or_first (pktIdMatch wantPktId) (queue.take 16)
      with hnone | ⟨noise, raw, rest, p, hsplit, hnoise, hmatch⟩
    · have hnoise : Noise wantPktId (queue.take 16) := noise_iff.mpr hnone
      by_cases hlong : 16 ≤ queue.length
      · rw [recvL2WithPktId_used_up hfront hnoise (by omega) phase] at hrun
        exact (EStateM.Result.error.inj hrun).1.symm
      · obtain ⟨ms, t₂, hquiet⟩ := hends.resolve_left hlong
        rw [List.drop_eq_nil_of_le (by omega)] at hback
        cases hback
        rw [recvL2WithPktId_timeout hfront hnoise (by omega) hquiet phase] at hrun
        exact (EStateM.Result.error.inj hrun).1.symm
    · obtain ⟨bytes, reply⟩ := p
      obtain ⟨-, hdr, body, hl2, hid, -⟩ := pktIdMatch_eq_some.mp hmatch
      have hlen := congrArg List.length hsplit
      rw [List.length_append, List.length_cons] at hlen
      rw [hsplit, ← List.singleton_append, ← List.append_assoc] at hfront
      obtain ⟨t₂, hdel, -⟩ := hfront.split
      rw [recvL2WithPktId_found hdel (noise_iff.mpr hnoise) (by omega) hl2 hid phase] at hrun
      cases hrun

/-- An empty frame, a frame with another id, and the reply, with one more frame behind it. -/
theorem recvL2WithPktId_through_noise_third :
    let queue := [[], mockReply 7 4 [1], mockReply 7 5 [2], [0x7E]]
    ∃ t₁, (recvL2WithPktId 5 "query").run (mockSession 5 queue)
      = .ok (mockReply 7 5 [2], replyOf (.query 5 7 125 900000000) [2])
          { mockSession 5 queue with transport := t₁ } := by
  have hother : l2Of (mockReply 7 4 [1]) = some (.query 4 7 125 900000000, [1]) :=
    l2Of_mockReply 7 4 (by decide)
  have hreply : l2Of (mockReply 7 5 [2]) = some (.query 5 7 125 900000000, [2]) :=
    l2Of_mockReply 7 5 (by decide)
  have hnoise : Noise 5 [[], mockReply 7 4 [1]] := by
    intro o ho
    rcases List.mem_cons.mp ho with rfl | ho
    · decide
    · rw [List.mem_singleton.mp ho, pktIdOf, hother]
      decide
  obtain ⟨t₁, -, -, hrun⟩ := (recvL2WithPktId_through_noise
    (MockTransport.delivers _ [[], mockReply 7 4 [1], mockReply 7 5 [2], [0x7E]] [] [])
    5 "query" (s := mockSession 5 _)).1
    [[], mockReply 7 4 [1]] (mockReply 7 5 [2]) [[0x7E]] _ [2] rfl (by decide) hnoise hreply rfl
  exact ⟨t₁, hrun⟩

end Session

end HassSma
