/-
  Which reply a query returns.

  The session tells replies apart by the packet id alone.  Two consequences, over any run of
  requests on a session that is logged in:

  * A reply that echoes the request's packet-id field is recognised exactly while the counter is in
    the lower half of its cycle (`reply_recognised_iff`): the decoder clears the top bit of the id,
    the comparison is with the counter as it is.
  * The sender's serial is never looked at, so a body belongs to the device that was asked exactly
    when the first frame with the packet id comes from that device (`attributed_iff`).
-/
import HassSma.Client.Receive

namespace HassSma

open Bytes Fallible Polling

namespace Session

variable {T : Type} [Transport T]

/-! ## Runs of requests -/

/-- The calls that use up one packet id each and leave the session logged in. -/
inductive Request where
  | query (kind : QueryKind)
  | queryForDevice (susyId : UInt16) (serial : UInt32) (kind : QueryKind)
  | queryEventLogForDevice (susyId : UInt16) (serial startUnix endUnix : UInt32)
  deriving DecidableEq

def Request.call : Request → SessionM T (List UInt8)
  | .query kind => Session.query kind
  | .queryForDevice susyId serial kind => Session.queryForDevice susyId serial kind
  | .queryEventLogForDevice susyId serial startUnix endUnix =>
    Session.queryEventLogForDevice susyId serial startUnix endUnix

/-- The session after a run of requests, whatever each of them returns. -/
def afterRequests : List Request → Session T → Session T
  | [], s => s
  | r :: rs, s => afterRequests rs (final (r.call.run s))

/-- Nothing but the transport is touched. -/
def OnlyTransport (s s' : Session T) : Prop := ∃ t, s' = { s with transport := t }

omit [Transport T] in
theorem onlyTransport_refl (s : Session T) : OnlyTransport s s := ⟨s.transport, rfl⟩

omit [Transport T] in
theorem onlyTransport_trans {s s' s'' : Session T} :
    OnlyTransport s s' → OnlyTransport s' s'' → OnlyTransport s s'' := by
  rintro ⟨t, rfl⟩ ⟨t', rfl⟩
  exact ⟨t', rfl⟩

omit [Transport T] in
theorem onlyTransport_polled {α : Type} (phase : String) (s : Session T)
    (r : Except (Option TransportError) α × T) : OnlyTransport s (final (polled phase s r)) := by
  rcases r with ⟨(_ | e) | a, t⟩ <;> exact ⟨t, rfl⟩

theorem onlyTransport_sendFrame (data : List UInt8) :
    Keeps OnlyTransport (sendFrame data : SessionM T Nat) := by
  intro s
  exact ⟨_, final_sendFrame data s⟩

theorem onlyTransport_recvFrame (phase : String) :
    Keeps OnlyTransport (recvFrame phase : SessionM T (List UInt8)) := by
  intro s
  exact ⟨_, final_recvFrame phase s⟩

theorem final_queryForDevice {s : Session T} (h : s.state = .loggedIn) (susyId : UInt16)
    (serial : UInt32) (kind : QueryKind) :
    OnlyTransport s.advance (final ((queryForDevice susyId serial kind).run s)) := by
  rw [run_queryForDevice h]
  rcases Transport.sendFrame s.transport (s.queryWire susyId serial kind) with ⟨e | n, t⟩
  · exact ⟨t, rfl⟩
  · exact onlyTransport_polled _ _ _

theorem final_queryEventLogForDevice {s : Session T} (h : s.state = .loggedIn) (susyId : UInt16)
    (serial startUnix endUnix : UInt32) :
    OnlyTransport s.advance
      (final ((queryEventLogForDevice susyId serial startUnix endUnix).run s)) := by
  rw [queryEventLogForDevice, bind_of_ok (EStateM.run_get s), bind_of_ok (run_ensure_of h _ s),
    bind_of_ok (run_nextPcktid s)]
  exact Keeps.bind (R := OnlyTransport) onlyTransport_trans (onlyTransport_sendFrame _)
    (fun _ => keeps_collectFragments onlyTransport_refl onlyTransport_trans onlyTransport_recvFrame
      _ _ _) s.advance

/-- One request: the next packet id is used, the transport moves on, nothing else changes. -/
theorem final_call {s : Session T} (h : s.state = .loggedIn) (r : Request) :
    OnlyTransport s.advance (final (r.call.run s)) := by
  cases r with
  | query kind =>
    rw [Request.call, query, bind_of_ok (EStateM.run_get s)]
    exact final_queryForDevice h _ _ _
  | queryForDevice susyId serial kind => exact final_queryForDevice h _ _ _
  | queryEventLogForDevice susyId serial startUnix endUnix =>
    exact final_queryEventLogForDevice h _ _ _ _

theorem succPktId_toNat (id : UInt16) : (succPktId id).toNat = id.toNat % 65535 + 1 := by
  have hlt := id.toNat_lt
  have hadd : (id + 1).toNat = (id.toNat + 1) % 65536 := UInt16.toNat_add id 1
  have hmax : succPktId id = if id + 1 ≤ 1 then 1 else id + 1 := rfl
  rw [hmax]
  split
  · rename_i hle
    rw [UInt16.le_iff_toNat_le, hadd, show (1 : UInt16).toNat = 1 from rfl] at hle
    rw [show (1 : UInt16).toNat = 1 from rfl]
    omega
  · rename_i hgt
    rw [UInt16.le_iff_toNat_le, hadd, show (1 : UInt16).toNat = 1 from rfl] at hgt
    rw [hadd]
    omega

/-- **The counter over a run**: ids run through `1, …, 65535` in turn, from wherever they are. -/
theorem afterRequests_spec (rs : List Request) {s : Session T} (h : s.state = .loggedIn) :
    (afterRequests rs s).state = .loggedIn ∧
      (succPktId (afterRequests rs s).pcktid).toNat = (s.pcktid.toNat + rs.length) % 65535 + 1 := by
  induction rs generalizing s with
  | nil => exact ⟨h, succPktId_toNat s.pcktid⟩
  | cons r rs ih =>
    obtain ⟨t, hfinal⟩ := final_call h r
    obtain ⟨hstate, hid⟩ := ih (s := final (r.call.run s)) (by rw [hfinal]; exact h)
    refine ⟨hstate, ?_⟩
    have hnext : (final (r.call.run s)).pcktid.toNat = s.pcktid.toNat % 65535 + 1 := by
      rw [hfinal]
      exact succPktId_toNat s.pcktid
    rw [afterRequests, hid, hnext, List.length_cons]
    omega

/-! ## A reply that echoes the packet-id field -/

omit [Transport T] in
/-- The field of the query just sent: the next packet id with the top bit set. -/
theorem l2FieldOf_queryWire (s : Session T) (susyId : UInt16) (serial : UInt32)
    (kind : QueryKind) :
    l2FieldOf (s.queryWire susyId serial kind) = some (succPktId s.pcktid ||| appPacketBit) :=
  l2FieldOf_l2Wire s.cfg.localBt (.query (succPktId s.pcktid) s.appSerial susyId serial)
    (by simp only [List.length_append, length_writeU32]; omega)

/-- The peer answers a query: the frame goes out, `others` come in, and then `raw`, which echoes
    the packet-id field of the query bit for bit; none of the others carries that field. -/
structure Echoed (s : Session T) (susyId : UInt16) (serial : UInt32) (kind : QueryKind)
    (others : List (List UInt8)) (raw body : List UInt8) : Prop where
  delivers : ∃ n t₁ t₂,
    Transport.sendFrame s.transport (s.queryWire susyId serial kind) = (.ok n, t₁) ∧
      Delivers s.frames t₁ (others ++ [raw]) t₂
  few : others.length < 16
  strangers : ∀ o ∈ others, l2FieldOf o ≠ l2FieldOf (s.queryWire susyId serial kind)
  echoes : l2FieldOf raw = l2FieldOf (s.queryWire susyId serial kind)
  carries : ∃ hdr, l2Of raw = some (hdr, body)

/-- An echoed reply is not recognised once the id does not fit 15 bits. -/
theorem query_not_ok_of_large {s : Session T} (h : s.state = .loggedIn)
    (hid : 32768 ≤ (succPktId s.pcktid).toNat) (susyId : UInt16) (serial : UInt32)
    (kind : QueryKind) (body : List UInt8) :
    value ((queryForDevice susyId serial kind).run s) ≠ .ok body := by
  intro hvalue
  cases hrun : (queryForDevice susyId serial kind).run s with
  | error e s' => rw [hrun] at hvalue; nomatch hvalue
  | ok body' s' =>
    obtain ⟨others, raw, t, hdr, -, hl2, hpkt, -⟩ := (run_queryForDevice_ok_iff h).mp hrun
    have hmatch := pktIdMatch_eq_some.mpr ⟨rfl, hdr, body', hl2, hpkt, rfl⟩
    rw [pktIdMatch_eq_none_of_large hid] at hmatch
    nomatch hmatch

/-- The first frame with the packet id decides what the query returns. -/
theorem query_ok_of_first {s : Session T} (h : s.state = .loggedIn) {susyId : UInt16}
    {serial : UInt32} {kind : QueryKind} {n : Nat} {t₁ t₂ : T} {skipped rest : List (List UInt8)}
    {raw bytes : List UInt8} {reply : L2Reply}
    (hsend : Transport.sendFrame s.transport (s.queryWire susyId serial kind) = (.ok n, t₁))
    (hdel : Delivers s.frames t₁ ((skipped ++ [raw]) ++ rest) t₂) (hfew : skipped.length < 16)
    (hskip : ∀ o ∈ skipped, pktIdMatch (succPktId s.pcktid) o = none)
    (hmatch : pktIdMatch (succPktId s.pcktid) raw = some (bytes, reply)) :
    value ((queryForDevice susyId serial kind).run s) = .ok reply.body := by
  obtain ⟨t, hfirst, -⟩ := hdel.split
  obtain ⟨-, hdr, data, hl2, hid, rfl⟩ := pktIdMatch_eq_some.mp hmatch
  rw [(run_queryForDevice_ok_iff h).mpr
    ⟨skipped, raw, t, hdr, ⟨⟨n, t₁, hsend, hfirst⟩, hfew, hskip⟩, hl2, hid, rfl⟩]
  rfl

/-- **When an echoed reply is recognised.**  After any run of requests on a logged-in session, the
    query returns the body of the reply that echoes its packet-id field exactly when the counter is
    in the lower half of its cycle and no stranger with the id's low 15 bits came first with
    another body. -/
theorem reply_recognised_iff {s₀ : Session T} (hin : s₀.state = .loggedIn)
    (earlier : List Request) {susyId : UInt16} {serial : UInt32} {kind : QueryKind}
    {others : List (List UInt8)} {raw body : List UInt8}
    (h : Echoed (afterRequests earlier s₀) susyId serial kind others raw body) :
    value ((queryForDevice susyId serial kind).run (afterRequests earlier s₀)) = .ok body ↔
      (s₀.pcktid.toNat + earlier.length) % 65535 < 32767 ∧
        ∀ o reply, others.findSome?
            (pktIdMatch (succPktId (afterRequests earlier s₀).pcktid)) = some (o, reply) →
          reply.body = body := by
  obtain ⟨hstate, hcounter⟩ := afterRequests_spec earlier hin
  generalize afterRequests earlier s₀ = s at *
  obtain ⟨⟨n, t₁, t₂, hsend, hdel⟩, hfew, hstrangers, hechoes, hdr, hl2⟩ := h
  rcases Nat.lt_or_ge ((s₀.pcktid.toNat + earlier.length) % 65535) 32767 with hlow | hhigh
  · rw [and_iff_right hlow]
    have hid : hdr.pktId = succPktId s.pcktid := by
      rw [pktId_of_field hl2 (hechoes.trans (l2FieldOf_queryWire s susyId serial kind)),
        wirePktId_or, wirePktId_eq_iff]
      omega
    have hmatch : pktIdMatch (succPktId s.pcktid) raw = some (raw, replyOf hdr body) :=
      pktIdMatch_eq_some.mpr ⟨rfl, hdr, body, hl2, hid, rfl⟩
    cases hfirst : others.findSome? (pktIdMatch (succPktId s.pcktid)) with
    | none =>
      have hdel' : Delivers s.frames t₁ ((others ++ [raw]) ++ []) t₂ := by
        rw [List.append_nil]
        exact hdel
      have hvalue := query_ok_of_first hstate hsend hdel' hfew
        (List.findSome?_eq_none_iff.mp hfirst) hmatch
      simp only [hvalue, reduceCtorEq, false_implies, implies_true, iff_true]
      rfl
    | some p =>
      obtain ⟨bytes, reply⟩ := p
      obtain ⟨skipped, o, rest, rfl, ho, hskip⟩ := List.findSome?_eq_some_iff.mp hfirst
      rw [List.length_append] at hfew
      have hdel' : Delivers s.frames t₁ ((skipped ++ [o]) ++ (rest ++ [raw])) t₂ := by
        rw [← List.append_assoc, List.append_assoc skipped, List.singleton_append]
        exact hdel
      have hvalue := query_ok_of_first hstate hsend hdel' (by omega) hskip ho
      rw [hvalue, Except.ok.injEq]
      constructor
      · rintro hbody o' reply' heq
        obtain ⟨rfl, rfl⟩ := Prod.mk.inj (Option.some.inj heq)
        exact hbody
      · intro hbody
        exact hbody bytes reply rfl
  · have hlarge := query_not_ok_of_large hstate (by omega) susyId serial kind body
    constructor
    · intro hvalue
      exact absurd hvalue hlarge
    · rintro ⟨hlow, -⟩
      omega

/-! ## Examples over the mock -/

/-- The one reply that a mock has queued, with the request's packet id, is an echo. -/
theorem echoed_mockReply (pcktid : UInt16) (serial : UInt32) (kind : QueryKind)
    {body : List UInt8} (hlen : body.length ≤ 32000) :
    Echoed (mockSession pcktid [mockReply serial (succPktId pcktid) body]) 125 serial kind []
      (mockReply serial (succPktId pcktid) body) body where
  delivers := ⟨_, _, _, rfl, .cons rfl (.nil _)⟩
  few := by decide
  strangers := by simp
  echoes := by
    rw [l2FieldOf_queryWire]
    exact l2FieldOf_l2Wire (.fill 1) (.query (succPktId pcktid) serial 125 900000000) hlen
  carries := ⟨_, l2Of_mockReply serial _ hlen⟩

theorem reply_recognised_iff_first_request :
    value ((queryForDevice 125 7 .spotAcTotalPower).run
        (mockSession 0 [mockReply 7 1 [1, 2, 3]])) = .ok [1, 2, 3] ↔
      (0 + 0) % 65535 < 32767 ∧
        ∀ o reply, ([] : List (List UInt8)).findSome? (pktIdMatch 1) = some (o, reply) →
          reply.body = [1, 2, 3] :=
  @reply_recognised_iff _ _ (mockSession 0 [mockReply 7 1 [1, 2, 3]]) rfl [] _ _ _ _ _ _
    (echoed_mockReply 0 7 .spotAcTotalPower (by decide))

/-- The 32768th request: its reply echoes the field `0x8000` and is not recognised. -/
theorem reply_not_recognised_at_32768 :
    Echoed (mockSession 32767 [mockReply 7 32768 [1, 2, 3]]) 125 7 .spotAcTotalPower []
        (mockReply 7 32768 [1, 2, 3]) [1, 2, 3] ∧
      value ((queryForDevice 125 7 .spotAcTotalPower).run
        (mockSession 32767 [mockReply 7 32768 [1, 2, 3]])) ≠ .ok [1, 2, 3] :=
  ⟨echoed_mockReply 32767 7 .spotAcTotalPower (by decide),
    query_not_ok_of_large rfl (by decide) 125 7 .spotAcTotalPower [1, 2, 3]⟩

/-! ## Whose reply it is -/

/-- What passed through a recorded transport during a call. -/
def eventsSince (s s' : Session (Recorder T)) : List IoEvent :=
  s'.transport.log.drop s.transport.log.length

/-- Every body the query can return is that of a frame received in this call, from the device that
    was asked, with the packet id of the request. -/
def Attributed (s : Session (Recorder T)) (susyId : UInt16) (serial : UInt32)
    (kind : QueryKind) : Prop :=
  ∀ body s', (queryForDevice susyId serial kind).run s = .ok body s' →
    ∃ raw hdr, IoEvent.received (.ok raw) ∈ eventsSince s s' ∧ l2Of raw = some (hdr, body) ∧
      hdr.appSerial = serial ∧ hdr.pktId = succPktId s.pcktid

/-- What passes in a call that sends one frame and then takes what is delivered. -/
theorem eventsSince_sent {s : Session (Recorder T)} {data : List UInt8} {n : Nat}
    {t t' : Recorder T} {raws : List (List UInt8)}
    (hsend : Transport.sendFrame s.transport data = (.ok n, t))
    (hdel : Delivers s.frames t raws t') :
    eventsSince s { s.advance with transport := t' }
      = .sent data (.ok n) :: raws.map fun raw => .received (.ok raw) := by
  rw [eventsSince, show ({ s.advance with transport := t' } : Session (Recorder T)).transport = t'
    from rfl, Recorder.delivers_log hdel, Recorder.log_of_sent hsend, List.append_assoc,
    List.drop_left]
  rfl

theorem exchange_events {s : Session (Recorder T)} {susyId : UInt16} {serial : UInt32}
    {kind : QueryKind} {others : List (List UInt8)} {raw : List UInt8} {t : Recorder T}
    (h : Exchange s susyId serial kind others raw t) :
    ∃ result, eventsSince s { s.advance with transport := t }
      = .sent (s.queryWire susyId serial kind) result ::
        (others ++ [raw]).map fun raw => .received (.ok raw) := by
  obtain ⟨n, t₁, hsend, hdel⟩ := h.delivers
  exact ⟨.ok n, eventsSince_sent hsend hdel⟩

/-- **When readings are attributed to the right inverter**: the serial of a reply is never compared,
    so exactly when the first frame that carries the request's packet id, if any comes in reach, is
    from the device that was asked. -/
theorem attributed_iff {s : Session (Recorder T)} (h : s.state = .loggedIn) (susyId : UInt16)
    (serial : UInt32) (kind : QueryKind) :
    Attributed s susyId serial kind ↔
      ∀ others raw t hdr body, Exchange s susyId serial kind others raw t →
        l2Of raw = some (hdr, body) → hdr.pktId = succPktId s.pcktid → hdr.appSerial = serial := by
  constructor
  · intro hattr others raw t hdr body hex hl2 hid
    obtain ⟨raw', hdr', hmem, hl2', hserial, hid'⟩ := hattr body _
      ((run_queryForDevice_ok_iff h).mpr ⟨others, raw, t, hdr, hex, hl2, hid, rfl⟩)
    obtain ⟨result, hevents⟩ := exchange_events hex
    -- only the last frame of the exchange carries the id
    have hraw : raw' = raw := by
      rw [hevents] at hmem
      simp only [List.mem_cons, reduceCtorEq, false_or, List.mem_map, IoEvent.received.injEq,
        Except.ok.injEq, exists_eq_right, List.mem_append, List.not_mem_nil, or_false] at hmem
      rcases hmem with hother | hlast
      · have hmatch := pktIdMatch_eq_some.mpr ⟨rfl, hdr', body, hl2', hid', rfl⟩
        rw [hex.skipped raw' hother] at hmatch
        cases hmatch
      · exact hlast
    rw [hraw, hl2] at hl2'
    rw [(Prod.mk.inj (Option.some.inj hl2')).1]
    exact hserial
  · intro hfirst body s' hrun
    obtain ⟨others, raw, t, hdr, hex, hl2, hid, rfl⟩ := (run_queryForDevice_ok_iff h).mp hrun
    obtain ⟨result, hevents⟩ := exchange_events hex
    refine ⟨raw, hdr, ?_, hl2, hfirst others raw t hdr body hex hl2 hid, hid⟩
    rw [hevents]
    simp

/-- A logged-in session over a recorded mock. -/
def recordedSession (pcktid : UInt16) (replies : List (List UInt8)) :
    Session (Recorder MockTransport) :=
  { mockSession pcktid replies with transport := ⟨⟨replies, [], false⟩, []⟩ }

/-- A reply with the request's packet id is the first and last of the exchange. -/
theorem exchange_mockReply (serial serial' : UInt32) (kind : QueryKind) (body : List UInt8) :
    ∃ t, Exchange (recordedSession 0 [mockReply serial' 1 body]) 125 serial kind []
      (mockReply serial' 1 body) t :=
  ⟨_, ⟨_, _, rfl, .cons rfl (.nil _)⟩, by decide, by simp⟩

theorem attributed_iff_right_device :
    Attributed (recordedSession 0 [mockReply 7 1 [1, 2, 3]]) 125 7 .spotAcTotalPower ↔
      ∀ others raw t hdr body,
        Exchange (recordedSession 0 [mockReply 7 1 [1, 2, 3]]) 125 7 .spotAcTotalPower others raw t →
          l2Of raw = some (hdr, body) → hdr.pktId = succPktId 0 → hdr.appSerial = 7 :=
  attributed_iff rfl 125 7 .spotAcTotalPower

/-- Device 7 is asked; device 8 answers with the request's packet id, and its body is returned. -/
theorem not_attributed_foreign_reply :
    ¬ Attributed (recordedSession 0 [mockReply 8 1 [1, 2, 3]]) 125 7 .spotAcTotalPower := by
  intro hattr
  obtain ⟨t, hex⟩ := exchange_mockReply 7 8 .spotAcTotalPower [1, 2, 3]
  have hl2 := @l2Of_mockReply 8 1 [1, 2, 3] (by decide)
  obtain ⟨raw, hdr, hmem, hl2', hserial, -⟩ := hattr [1, 2, 3] _
    ((run_queryForDevice_ok_iff rfl).mpr ⟨[], _, t, _, hex, hl2, by decide, rfl⟩)
  obtain ⟨result, hevents⟩ := exchange_events hex
  rw [hevents] at hmem
  obtain rfl : raw = mockReply 8 1 [1, 2, 3] := by simpa using hmem
  rw [hl2] at hl2'
  rw [← (Prod.mk.inj (Option.some.inj hl2')).1] at hserial
  exact absurd hserial (by decide)

end Session

end HassSma
