/-
  Late replies to earlier requests.

  Replies are told apart by a packet id of which 15 bits go over the wire, and the counter runs through
  `1, …, 65535`.  So two requests share their 15 bits exactly if their numbers are 32767 or 32768 apart,
  or 65535, and so on: within a window of 32766 requests no two do, not across the top bit and not across
  the wrap.

  1. **The numbering** — `Numbered`: the packet-id fields of the requests in a log are those of
     `1, 2, 3, …`, and the counter stands at the last one.  Every call keeps that, failed or not.
  2. **The window** — `not_stale`: a frame with the packet id of request `i` does not echo the field of
     any of the 32766 requests before it.
  3. **What calls return** — `NothingStale`: the bodies, the identity, and the verdict on the logon are
     read from frames that are not stale, in every call of every run (`stale_replies_never_returned`).
-/
import HassSma.Client.Handshake
import HassSma.Client.Fragments

namespace HassSma

open Bytes Fallible Polling History

namespace Session

variable {T : Type} [Transport T]

/-! ## Requests and replies -/

/-- The packet-id field of a request, whether its send succeeds or not. -/
def requestField : IoEvent → Option UInt16
  | .sent data _ => l2FieldOf data
  | _ => none

/-- The packet-id fields of the requests in a log, in order.  Requests are numbered from zero. -/
def requests (log : List IoEvent) : List UInt16 := log.filterMap requestField

/-- The frame has the packet-id field of request number `j`, as every reply to that request has. -/
def Echoes (log : List IoEvent) (j : Nat) (raw : List UInt8) : Prop :=
  ∃ field, (requests log)[j]? = some field ∧ l2FieldOf raw = some field

/-- The frame is a reply to one of the 32766 requests before request number `i`. -/
def Stale (log : List IoEvent) (i : Nat) (raw : List UInt8) : Prop :=
  ∃ j, j < i ∧ i - j < 32767 ∧ Echoes log j raw

@[simp] theorem requests_append (log log' : List IoEvent) :
    requests (log ++ log') = requests log ++ requests log' := List.filterMap_append

theorem requests_sent {data : List UInt8} {field : UInt16} (h : l2FieldOf data = some field)
    (result : Except TransportError Nat) : requests [.sent data result] = [field] := by
  rw [requests, List.filterMap_cons_some (show requestField (.sent data result) = some field from h)]
  rfl

/-! ## The numbering -/

/-- The packet id of the `k`-th request, counted from one. -/
def idNo : Nat → UInt16
  | 0 => 0
  | k + 1 => succPktId (idNo k)

theorem idNo_toNat (k : Nat) : (idNo (k + 1)).toNat = k % 65535 + 1 := by
  induction k with
  | zero => rfl
  | succ k ih =>
    rw [idNo, succPktId_toNat, ih]
    omega

/-- The packet-id field of request number `k`. -/
def fieldNo (k : Nat) : UInt16 := idNo (k + 1) ||| appPacketBit

/-- There have been `n` requests, and the counter stands at the last one. -/
def Numbered (n : Nat) (s : Session (Recorder T)) : Prop :=
  requests s.transport.log = (List.range n).map fieldNo ∧ s.pcktid = idNo n

/-- **The window**: two ids agree in their 15 bits only at a distance of 32767 or more. -/
theorem wire_image_injective {i j : Nat} (hj : j < i) (hd : i - j < 32767) :
    wirePktId (idNo (j + 1)) ≠ idNo (i + 1) := by
  intro h
  have htoNat := congrArg UInt16.toNat h
  rw [wirePktId_toNat, idNo_toNat, idNo_toNat] at htoNat
  -- whether the top bit was cut off, and whether the counter wrapped in between
  have htop : (j % 65535 + 1) / 32768 = 0 ∨ (j % 65535 + 1) / 32768 = 1 := by omega
  have hwrap : i / 65535 = j / 65535 ∨ i / 65535 = j / 65535 + 1 := by omega
  rcases htop with htop | htop <;> rcases hwrap with hwrap | hwrap <;> omega

/-- The window is as large as it can be: one request further back the 15 bits may be the same. -/
theorem wire_image_collides {j : Nat} (hlow : 32768 ≤ j) (hhigh : j < 65535) :
    wirePktId (idNo (j + 1)) = idNo (j + 32767 + 1) := by
  apply UInt16.toNat_inj.mp
  rw [wirePktId_toNat, idNo_toNat, idNo_toNat]
  omega

/-- A frame with the packet id of request number `i` is not a reply to one shortly before. -/
theorem not_stale {log : List IoEvent} {n i : Nat} (hlog : requests log = (List.range n).map fieldNo)
    (hi : i < n) {raw data : List UInt8} {hdr : L2Header} (hl2 : l2Of raw = some (hdr, data))
    (hid : hdr.pktId = idNo (i + 1)) : ¬ Stale log i raw := by
  rintro ⟨j, hj, hd, field, hrequest, hfield⟩
  have hfieldNo : field = fieldNo j := by
    rw [hlog, List.getElem?_map, List.getElem?_range (by omega)] at hrequest
    exact (Option.some.inj hrequest).symm
  have himage : wirePktId (idNo (j + 1)) = idNo (i + 1) := by
    rw [← hid, pktId_of_field hl2 hfield, hfieldNo, fieldNo, wirePktId_or]
  exact wire_image_injective hj hd himage

/-! ## Steps that are no requests -/

/-- No request went out, and the counter and the identity are as before. -/
structure NoRequest (s s' : Session (Recorder T)) : Prop where
  requests_eq : requests s'.transport.log = requests s.transport.log
  pcktid_eq : s'.pcktid = s.pcktid
  susyId_eq : s'.inverterSusyId = s.inverterSusyId
  serial_eq : s'.inverterSerial = s.inverterSerial

omit [Transport T] in
theorem noRequest_refl (s : Session (Recorder T)) : NoRequest s s := ⟨rfl, rfl, rfl, rfl⟩

omit [Transport T] in
theorem noRequest_trans {s s' s'' : Session (Recorder T)} (h : NoRequest s s')
    (h' : NoRequest s' s'') : NoRequest s s'' :=
  ⟨h'.1.trans h.1, h'.2.trans h.2, h'.3.trans h.3, h'.4.trans h.4⟩

omit [Transport T] in
theorem Numbered.of_noRequest {n : Nat} {s s' : Session (Recorder T)} (h : Numbered n s)
    (hsame : NoRequest s s') : Numbered n s' :=
  ⟨hsame.requests_eq.trans h.1, hsame.pcktid_eq.trans h.2⟩

theorem noRequest_recvFrame (phase : String) :
    Keeps NoRequest (recvFrame phase : SessionM (Recorder T) (List UInt8)) := by
  intro s
  rw [final_recvFrame]
  refine ⟨?_, rfl, rfl, rfl⟩
  show requests (s.frames s.transport).2.log = requests s.transport.log
  rw [show (s.frames s.transport).2.log = _ from
    Recorder.recvFrame_log s.transport s.cfg.timeoutMs, requests_append]
  exact List.append_nil _

/-- A frame without a packet id is no request. -/
theorem noRequest_sendFrame {data : List UInt8} (h : l2FieldOf data = none) :
    Keeps NoRequest (sendFrame data : SessionM (Recorder T) Nat) := by
  intro s
  rw [final_sendFrame]
  refine ⟨?_, rfl, rfl, rfl⟩
  show requests (Transport.sendFrame s.transport data).2.log = requests s.transport.log
  rw [Recorder.sendFrame_log, requests_append,
    show requests [.sent data _] = [] from List.filterMap_cons_none h]
  exact List.append_nil _

/-- A request: the counter moves on, and its frame goes out or is attempted. -/
theorem Numbered.request {n : Nat} {s : Session (Recorder T)} (h : Numbered n s) {data : List UInt8}
    (hfield : l2FieldOf data = some (succPktId s.pcktid ||| appPacketBit)) :
    Numbered (n + 1) (final ((sendFrame data).run s.advance)) := by
  obtain ⟨hlog, hid⟩ := h
  rw [final_sendFrame]
  refine ⟨?_, ?_⟩
  · show requests (Transport.sendFrame s.transport data).2.log = _
    rw [Recorder.sendFrame_log, requests_append, hlog, requests_sent hfield, List.range_succ,
      List.map_append, hid]
    rfl
  · show succPktId s.pcktid = idNo (n + 1)
    rw [hid]
    rfl

/-! ## Requests of a session that is logged in -/

/-- A request and what follows it, if only frames are received there. -/
theorem Numbered.exchange {n : Nat} {s : Session (Recorder T)} (h : Numbered n s) {α : Type}
    {data : List UInt8} (hfield : l2FieldOf data = some (succPktId s.pcktid ||| appPacketBit))
    {rest : Nat → SessionM (Recorder T) α} (hrest : ∀ k, Keeps NoRequest (rest k)) :
    Numbered (n + 1) (final ((sendFrame data >>= rest).run s.advance)) := by
  have hsent := h.request hfield
  rw [EStateM.run_bind]
  cases hrun : (sendFrame data).run s.advance with
  | error e s₁ =>
    rw [hrun] at hsent
    exact hsent
  | ok k s₁ =>
    rw [hrun] at hsent
    exact hsent.of_noRequest (hrest k s₁)

theorem Numbered.queryForDevice {n : Nat} {s : Session (Recorder T)} (h : Numbered n s)
    (hin : s.state = .loggedIn) (susyId : UInt16) (serial : UInt32) (kind : QueryKind) :
    Numbered (n + 1) (final ((queryForDevice susyId serial kind).run s)) := by
  rw [Session.queryForDevice, bind_of_ok (EStateM.run_get s), bind_of_ok (run_ensure_of hin _ s),
    bind_of_ok (run_nextPcktid s)]
  refine h.exchange (l2FieldOf_queryWire s susyId serial kind) fun k => ?_
  refine Keeps.bind (R := NoRequest) noRequest_trans ?_ fun p => keeps_pure noRequest_refl _
  exact keeps_recvL2WithPktId noRequest_refl noRequest_trans noRequest_recvFrame _ _

theorem Numbered.queryEventLogForDevice {n : Nat} {s : Session (Recorder T)} (h : Numbered n s)
    (hin : s.state = .loggedIn) (susyId : UInt16) (serial startUnix endUnix : UInt32) :
    Numbered (n + 1)
      (final ((queryEventLogForDevice susyId serial startUnix endUnix).run s)) := by
  rw [Session.queryEventLogForDevice, bind_of_ok (EStateM.run_get s),
    bind_of_ok (run_ensure_of hin _ s), bind_of_ok (run_nextPcktid s)]
  refine h.exchange (l2FieldOf_eventLogWire s susyId serial startUnix endUnix) fun k => ?_
  exact keeps_collectFragments noRequest_refl noRequest_trans noRequest_recvFrame _ _ _

/-- Every request that is not refused at once takes one number. -/
theorem Numbered.call {n : Nat} {s : Session (Recorder T)} (h : Numbered n s)
    (hin : s.state = .loggedIn) (r : Request) : Numbered (n + 1) (final (r.call.run s)) := by
  cases r with
  | query kind =>
    rw [Request.call, query, bind_of_ok (EStateM.run_get s)]
    exact h.queryForDevice hin _ _ _
  | queryForDevice susyId serial kind => exact h.queryForDevice hin _ _ _
  | queryEventLogForDevice susyId serial startUnix endUnix =>
    exact h.queryEventLogForDevice hin _ _ _ _

/-- The command body of a frame, empty if there is none. -/
def bodyOf (raw : List UInt8) : List UInt8 := ((l2Of raw).map Prod.snd).getD []

/-- The frames with a packet id are those the fragment loop reads. -/
def answersOf (pktId : UInt16) (raws : List (List UInt8)) : List (List UInt8) :=
  raws.filter fun raw => (pktIdMatch pktId raw).isSome

omit [Transport T] in
theorem answersOf_append_match {pktId : UInt16} {others raws : List (List UInt8)} {raw : List UInt8}
    {p : List UInt8 × L2Reply} (hothers : ∀ o ∈ others, pktIdMatch pktId o = none)
    (hraw : pktIdMatch pktId raw = some p) :
    answersOf pktId (others ++ raw :: raws) = raw :: answersOf pktId raws := by
  have hnone : answersOf pktId others = [] := by
    rw [answersOf, List.filter_eq_nil_iff]
    intro o ho
    rw [hothers o ho]
    nofun
  rw [answersOf, List.filter_append, ← answersOf, hnone, List.nil_append,
    List.filter_cons_of_pos (by rw [hraw]; rfl)]
  rfl

/-- **Where the fragments come from**: the loop returns the bodies of the frames with its packet id
    among those it received, in order. -/
theorem collectFragments_sourced {pktId : UInt16} {n : Nat} {aggregated out : List UInt8}
    {s s' : Session T} (h : (collectFragments pktId n aggregated).run s = .ok out s') :
    ∃ raws t, Delivers s.frames s.transport raws t ∧ s' = { s with transport := t } ∧
      out = aggregated ++ (answersOf pktId raws).flatMap bodyOf := by
  induction n generalizing s aggregated with
  | zero =>
    obtain ⟨rfl, rfl⟩ := EStateM.Result.ok.inj h
    exact ⟨[], s.transport, .nil _, rfl, (List.append_nil _).symm⟩
  | succ n ih =>
    rw [collectFragments] at h
    obtain ⟨⟨raw, reply⟩, s₁, hrecv, hrest⟩ := bind_eq_ok.mp h
    obtain ⟨others, t, -, hdel, hothers, hmatch, rfl⟩ := recvL2WithPktId_eq_ok_iff.mp hrecv
    have hbody : bodyOf raw = reply.body := by
      obtain ⟨-, hdr, data, hl2, -, rfl⟩ := pktIdMatch_eq_some.mp hmatch
      rw [bodyOf, hl2]
      rfl
    -- the last fragment and the ones before it are read alike
    have hlast : out = aggregated ++ reply.body → s' = { s with transport := t } →
        ∃ raws t, Delivers s.frames s.transport raws t ∧ s' = { s with transport := t } ∧
          out = aggregated ++ (answersOf pktId raws).flatMap bodyOf := by
      intro hout hs'
      refine ⟨others ++ [raw], t, hdel, hs', ?_⟩
      rw [answersOf_append_match hothers hmatch, List.flatMap_cons, hbody, hout]
      exact congrArg (aggregated ++ ·) (List.append_nil _).symm
    simp only at hrest
    split at hrest
    · cases hrest
    · split at hrest
      · obtain ⟨hout, hs'⟩ := EStateM.Result.ok.inj hrest
        exact hlast hout.symm hs'.symm
      · split at hrest
        · obtain ⟨hout, hs'⟩ := EStateM.Result.ok.inj hrest
          exact hlast hout.symm hs'.symm
        · obtain ⟨raws, t', hdel', hs', hout⟩ := ih hrest
          refine ⟨(others ++ [raw]) ++ raws, t', hdel.append hdel', hs', ?_⟩
          rw [hout, List.append_assoc others, List.singleton_append,
            answersOf_append_match hothers hmatch, List.flatMap_cons, hbody, List.append_assoc]

/-- An error code that the loop gives up on is that of the last frame it received. -/
theorem collectFragments_refusal_sourced {pktId : UInt16} {n : Nat} {aggregated : List UInt8}
    {s s' : Session T}
    (h : (collectFragments pktId n aggregated).run s = .error (.protocol "event-log-retcode") s') :
    ∃ raws raw t hdr data, Delivers s.frames s.transport (raws ++ [raw]) t ∧
      s' = { s with transport := t } ∧ l2Of raw = some (hdr, data) ∧ hdr.pktId = pktId ∧
      hdr.errorCode ≠ 0 := by
  induction n generalizing s aggregated with
  | zero => cases h
  | succ n ih =>
    rw [collectFragments, EStateM.run_bind] at h
    cases hrecv : (recvL2WithPktId pktId "event-log").run s with
    | error e s₁ =>
      rw [hrecv] at h
      obtain ⟨rfl, rfl⟩ := EStateM.Result.error.inj h
      rw [run_recvL2WithPktId] at hrecv
      rcases hpoll : poll s.frames (pktIdMatch pktId) 16 s.transport with ⟨(_ | e) | b, t⟩
      · rw [hpoll] at hrecv
        cases (EStateM.Result.error.inj hrecv).1
      · rw [hpoll] at hrecv
        have hkind := (EStateM.Result.error.inj hrecv).1
        cases e <;> cases hkind
      · rw [hpoll] at hrecv
        cases hrecv
    | ok p s₁ =>
      obtain ⟨raw, reply⟩ := p
      rw [hrecv] at h
      obtain ⟨others, t, -, hdel, -, hmatch, rfl⟩ := recvL2WithPktId_eq_ok_iff.mp hrecv
      obtain ⟨-, hdr, data, hl2, hid, rfl⟩ := pktIdMatch_eq_some.mp hmatch
      simp only at h
      split at h
      · rename_i hcode
        obtain ⟨-, rfl⟩ := EStateM.Result.error.inj h
        exact ⟨others, raw, t, hdr, data, hdel, rfl, hl2, hid, hcode⟩
      · split at h
        · cases h
        · split at h
          · cases h
          · obtain ⟨raws, raw', t', hdr', data', hdel', hs', hl2', hid', hcode'⟩ := ih h
            refine ⟨(others ++ [raw]) ++ raws, raw', t', hdr', data', ?_, hs', hl2', hid', hcode'⟩
            rw [List.append_assoc]
            exact hdel.append hdel'

/-! ## The handshake -/

/-- No rejected logon. -/
def NotRejected (e : SessionError) : Prop := ∀ code, e ≠ .logonFailed code

/-- A step of the handshake that is no request and rejects no logon. -/
structure Passes {α : Type} (x : SessionM (Recorder T) α) : Prop where
  keeps : Keeps NoRequest x
  error : ∀ {s s' e}, x.run s = .error e s' → NotRejected e

theorem notRejected_sendFrame {data : List UInt8} {s s' : Session T} {e : SessionError}
    (h : (sendFrame data).run s = .error e s') : NotRejected e := by
  rw [run_sendFrame] at h
  rcases hsend : Transport.sendFrame s.transport data with ⟨e' | n, t⟩
  · rw [hsend] at h
    rw [← (EStateM.Result.error.inj h).1]
    nofun
  · rw [hsend] at h
    nomatch h

omit [Transport T] in
theorem notRejected_recvError (phase : String) (e : TransportError) :
    NotRejected (recvError phase e) := by
  cases e <;> nofun

omit [Transport T] in
theorem notRejected_polled {α : Type} {phase : String} {s s' : Session T}
    {r : Except (Option TransportError) α × T} {e : SessionError}
    (h : polled phase s r = .error e s') : NotRejected e := by
  rcases r with ⟨(_ | e') | a, t⟩
  · rw [← (EStateM.Result.error.inj h).1]
    nofun
  · rw [← (EStateM.Result.error.inj h).1]
    exact notRejected_recvError phase e'
  · nomatch h

theorem passes_sendFrame {data : List UInt8} (h : l2FieldOf data = none) :
    Passes (T := T) (sendFrame data) :=
  ⟨noRequest_sendFrame h, notRejected_sendFrame⟩

theorem passes_recvFrame (phase : String) : Passes (T := T) (recvFrame phase) := by
  refine ⟨noRequest_recvFrame phase, ?_⟩
  intro s s' e h
  rw [run_recvFrame] at h
  rcases hnext : s.frames s.transport with ⟨e' | raw, t⟩
  · rw [hnext] at h
    rw [← (EStateM.Result.error.inj h).1]
    exact notRejected_recvError phase e'
  · rw [hnext] at h
    nomatch h

omit [Transport T] in
theorem passes_parseFrame (raw : List UInt8) : Passes (T := T) (parseFrame raw) := by
  unfold parseFrame
  split
  · exact ⟨keeps_pure noRequest_refl _, fun h => nomatch h⟩
  · refine ⟨keeps_throw noRequest_refl _, ?_⟩
    intro s s' e h
    rw [← (EStateM.Result.error.inj h).1]
    nofun

omit [Transport T] in
theorem passes_ensure (c : Prop) [Decidable c] {e : SessionError} (he : NotRejected e) :
    Passes (T := T) (ensure c e) := by
  unfold ensure
  split
  · exact ⟨keeps_pure noRequest_refl _, fun h => nomatch h⟩
  · refine ⟨keeps_throw noRequest_refl _, ?_⟩
    intro s s' e' h
    rw [← (EStateM.Result.error.inj h).1]
    exact he

theorem passes_recvUntilL1Ctrl (wantCtrl : UInt16) (phase : String) :
    Passes (T := T) (recvUntilL1Ctrl wantCtrl phase) := by
  refine ⟨keeps_recvUntilL1Ctrl noRequest_refl noRequest_trans noRequest_recvFrame _ _, ?_⟩
  intro s s' e h
  rw [run_recvUntilL1Ctrl] at h
  exact notRejected_polled h

theorem passes_recvInitFromTarget (wantPktId : UInt16) (targetBt : BtAddr) :
    Passes (T := T) (recvInitFromTarget wantPktId targetBt) := by
  refine ⟨keeps_recvInitFromTarget noRequest_refl noRequest_trans noRequest_recvFrame _ _, ?_⟩
  intro s s' e h
  rw [run_recvInitFromTarget] at h
  exact notRejected_polled h

/-- `x` fails without a request or a rejection, or it goes on with `next`. -/
def LeadsTo (next : BtAddr → SessionM (Recorder T) Unit) (x : SessionM (Recorder T) Unit) : Prop :=
  ∀ s, (∃ e s', x.run s = .error e s' ∧ NoRequest s s' ∧ NotRejected e) ∨
    ∃ bt s₁, NoRequest s s₁ ∧ x.run s = (next bt).run s₁

omit [Transport T] in
/-- A step that passes may stand in front. -/
theorem LeadsTo.after {α : Type} {next : BtAddr → SessionM (Recorder T) Unit}
    {x : SessionM (Recorder T) α} {f : α → SessionM (Recorder T) Unit} (hx : Passes x)
    (hf : ∀ a, LeadsTo next (f a)) : LeadsTo next (x >>= f) := by
  intro s
  have hkept := hx.keeps s
  cases hrun : x.run s with
  | error e s₁ =>
    rw [hrun] at hkept
    exact .inl ⟨e, s₁, bind_of_error hrun f, hkept, hx.error hrun⟩
  | ok a s₁ =>
    rw [hrun] at hkept
    rw [bind_of_ok hrun]
    rcases hf a s₁ with ⟨e, s', hfail, hsame, he⟩ | ⟨bt, s₂, hsame, hnext⟩
    · exact .inl ⟨e, s', hfail, noRequest_trans hkept hsame, he⟩
    · exact .inr ⟨bt, s₂, noRequest_trans hkept hsame, hnext⟩

theorem l2FieldOf_eq_none {raw : List UInt8} (h : l2Of raw = none) : l2FieldOf raw = none := by
  rw [l2Of] at h
  rw [l2FieldOf]
  cases hparse : Frame.parse raw with
  | error e => rfl
  | ok frame =>
    rw [hparse] at h
    simp only at h ⊢
    split
    · rfl
    · rename_i hkind
      rw [if_neg hkind] at h
      rw [h]
      rfl

/-- **Up to the topology**: no request yet. -/
theorem helloSteps_leadsTo (next : BtAddr → SessionM (Recorder T) Unit) :
    LeadsTo next (helloSteps next) := by
  refine .after ⟨keeps_modify fun s => ⟨rfl, rfl, rfl, rfl⟩, fun h => nomatch h⟩ fun _ => ?_
  refine .after (passes_sendFrame (l2FieldOf_eq_none l2Of_verWire)) fun _ => ?_
  refine .after (passes_recvFrame _) fun helloBytes => ?_
  refine .after (passes_parseFrame _) fun hello => ?_
  refine .after (passes_ensure _ nofun) fun _ => ?_
  refine .after (passes_ensure _ nofun) fun _ => ?_
  refine .after (passes_ensure _ nofun) fun _ => ?_
  refine .after (passes_sendFrame (l2FieldOf_eq_none (l2Of_echoWire _ _))) fun _ => ?_
  refine .after (passes_recvUntilL1Ctrl _ _) fun _ => ?_
  exact fun s => .inr ⟨hello.localBt, s, noRequest_refl s, rfl⟩

/-- The identity is the one before. -/
def SameIdentity (s s' : Session (Recorder T)) : Prop :=
  s'.inverterSusyId = s.inverterSusyId ∧ s'.inverterSerial = s.inverterSerial

omit [Transport T] in
theorem NoRequest.sameIdentity {s s' : Session (Recorder T)} (h : NoRequest s s') :
    SameIdentity s s' := ⟨h.susyId_eq, h.serial_eq⟩

/-- A request that has gone out, or failed to. -/
theorem run_request {n : Nat} {s : Session (Recorder T)} (h : Numbered n s) {data : List UInt8}
    (hfield : l2FieldOf data = some (succPktId s.pcktid ||| appPacketBit)) :
    (∃ e s', (sendFrame data).run s.advance = .error e s' ∧ NotRejected e ∧ Numbered (n + 1) s' ∧
        SameIdentity s s' ∧ ∃ result, s'.transport.log = s.transport.log ++ [.sent data result]) ∨
      ∃ k s', (sendFrame data).run s.advance = .ok k s' ∧ Numbered (n + 1) s' ∧
        SameIdentity s s' ∧ ∃ result, s'.transport.log = s.transport.log ++ [.sent data result] := by
  have hnumbered := h.request hfield
  have hfinal := final_sendFrame data s.advance
  have hlog : (final ((sendFrame data).run s.advance)).transport.log = _ :=
    (congrArg (fun s : Session (Recorder T) => s.transport.log) hfinal).trans
      (Recorder.sendFrame_log s.transport data)
  have hsame : SameIdentity s (final ((sendFrame data).run s.advance)) := by
    rw [hfinal]
    exact ⟨rfl, rfl⟩
  cases hrun : (sendFrame data).run s.advance with
  | error e s' =>
    rw [hrun] at hnumbered hlog hsame
    exact .inl ⟨e, s', rfl, notRejected_sendFrame hrun, hnumbered, hsame, _, hlog⟩
  | ok k s' =>
    rw [hrun] at hnumbered hlog hsame
    exact .inr ⟨k, s', rfl, hnumbered, hsame, _, hlog⟩

theorem l2FieldOf_initBody (localBt : BtAddr) (pktId : UInt16) (appSerial : UInt32) :
    l2FieldOf (l2Wire localBt (buildInitBody pktId appSerial)) = some (pktId ||| appPacketBit) :=
  l2FieldOf_l2Wire localBt (.init pktId appSerial) (by simp)

theorem l2FieldOf_logoffBody (localBt : BtAddr) (pktId : UInt16) (appSerial : UInt32) :
    l2FieldOf (l2Wire localBt (buildLogoffBody pktId appSerial)) = some (pktId ||| appPacketBit) :=
  l2FieldOf_l2Wire localBt (.logoff pktId appSerial) (by simp)

theorem l2FieldOf_logonBody (localBt : BtAddr) (pwd : String) (group : UserGroup) (pktId : UInt16)
    (appSerial nowEpoch : UInt32) :
    l2FieldOf (l2Wire localBt (buildLogonBody pwd group pktId appSerial nowEpoch))
      = some (pktId ||| appPacketBit) :=
  l2FieldOf_l2Wire localBt (.logon pktId appSerial) (by simp)

/-- **The init**: it fails, or the reply adopted is the last frame received and carries the packet id
    of the init. -/
theorem initSteps_cases {n : Nat} {s : Session (Recorder T)} (h : Numbered n s) (nowEpoch : UInt32)
    (targetBt : BtAddr) :
    (∃ e s', (initSteps nowEpoch targetBt).run s = .error e s' ∧ NotRejected e ∧
        Numbered (n + 1) s' ∧ SameIdentity s s') ∨
      ∃ config s₂ front raw hdr data,
        (initSteps nowEpoch targetBt).run s = (logonSteps nowEpoch config).run s₂ ∧
        Numbered (n + 1) s₂ ∧ s₂.transport.log = front ++ [.received (.ok raw)] ∧
        l2Of raw = some (hdr, data) ∧ hdr.pktId = idNo (n + 1) ∧
        s₂.inverterSusyId = hdr.appSusyId ∧ s₂.inverterSerial = hdr.appSerial := by
  let s₁ : Session (Recorder T) := { s with state := .enumerating }
  have h₁ : Numbered n s₁ := h
  have hmodify : (modify fun s => { s with state := .enumerating } :
      SessionM (Recorder T) PUnit).run s = .ok () s₁ := rfl
  rw [initSteps, bind_of_ok hmodify, bind_of_ok (run_nextPcktid s₁), bind_of_ok (EStateM.run_get _)]
  rcases run_request h₁ (l2FieldOf_initBody s₁.advance.cfg.localBt _ s₁.advance.appSerial) with
    ⟨e, s', hsend, he, hnum, hsame, -⟩ | ⟨k, s', hsend, hnum, hsame, -⟩
  · exact .inl ⟨e, s', bind_of_error hsend _, he, hnum, hsame⟩
  · rw [bind_of_ok hsend]
    have hpasses := passes_recvInitFromTarget (T := T) (succPktId s₁.pcktid) targetBt
    have hkept := hpasses.keeps s'
    cases hrecv : (recvInitFromTarget (succPktId s₁.pcktid) targetBt).run s' with
    | error e s₂ =>
      rw [hrecv] at hkept
      exact .inl ⟨e, s₂, bind_of_error hrecv _, hpasses.error hrecv, hnum.of_noRequest hkept,
        hkept.susyId_eq.trans hsame.1, hkept.serial_eq.trans hsame.2⟩
    | ok reply s₂ =>
      rw [hrecv] at hkept
      rw [bind_of_ok hrecv]
      rw [run_recvInitFromTarget] at hrecv
      obtain ⟨t, hpolls, rfl⟩ := polled_eq_ok.mp hrecv
      obtain ⟨raws, raw, c, hdel, -, -, -, hctrl, hmatch⟩ := polls_eq_ok_iff.mp hpolls
      obtain ⟨rfl, -⟩ := ctrlMatch_eq_some.mp hctrl
      obtain ⟨frame, hdr, data, hparse, hdec, hid, -, rfl⟩ := initMatch_eq_some.mp hmatch
      have hlog := Recorder.delivers_log hdel
      rw [List.map_append, ← List.append_assoc] at hlog
      have hnum' := hnum.of_noRequest hkept
      exact .inr ⟨_, _, _, c, hdr, data, rfl, ⟨hnum'.1, hnum'.2⟩, hlog,
        l2Of_of_decodeL2 hparse hdec, hid.trans (congrArg succPktId h.2), rfl, rfl⟩


/-- The log goes on. -/
def LogGoesOn (s s' : Session (Recorder T)) : Prop := ∃ io, Logged s io s'

omit [Transport T] in
theorem logGoesOn_refl (s : Session (Recorder T)) : LogGoesOn s s := ⟨[], (List.append_nil _).symm⟩

omit [Transport T] in
theorem logGoesOn_trans {s s' s'' : Session (Recorder T)} :
    LogGoesOn s s' → LogGoesOn s' s'' → LogGoesOn s s'' := by
  rintro ⟨io, h⟩ ⟨io', h'⟩
  exact ⟨io ++ io', h.trans h'⟩

theorem logGoesOn_recvFrame (phase : String) :
    Keeps LogGoesOn (recvFrame phase : SessionM (Recorder T) (List UInt8)) := by
  intro s
  rw [final_recvFrame]
  exact ⟨_, Recorder.recvFrame_log s.transport s.cfg.timeoutMs⟩

/-- What the log says behind the logon request with this packet id: a logon that succeeds ends with the
    accepting reply, a rejection has its code from a reply. -/
def LogonVerdict (pktId : UInt16) (io : List IoEvent) : Except SessionError Unit → Prop
  | .ok _ => ∃ raw, io.getLast? = some (.received (.ok raw)) ∧ IsLogonReply pktId raw 0
  | .error e => ∀ code, e = .logonFailed code →
      ∃ raw, .received (.ok raw) ∈ io ∧ IsLogonReply pktId raw code

/-- **The logon**: its frame, the replies, and the state. -/
theorem logon_cases {n : Nat} {s : Session (Recorder T)} (h : Numbered n s) {data : List UInt8}
    (hfield : l2FieldOf data = some (succPktId s.pcktid ||| appPacketBit))
    {x : SessionM (Recorder T) Unit}
    (hx : x = do
      let _ ← sendFrame data
      let _ ← recvLogonReply (succPktId s.pcktid)
      modify fun s => { s with state := .loggedIn }) :
    ∃ io, Logged s io (final (x.run s.advance)) ∧ SameIdentity s (final (x.run s.advance)) ∧
      Numbered (n + 1) (final (x.run s.advance)) ∧
      LogonVerdict (idNo (n + 1)) io (value (x.run s.advance)) := by
  have hid : succPktId s.pcktid = idNo (n + 1) := congrArg succPktId h.2
  rw [hx]
  rcases run_request h hfield with
    ⟨e, s₁, hsend, he, hnum, hsame, result, hlog⟩ | ⟨k, s₁, hsend, hnum, hsame, result, hlog⟩
  · rw [bind_of_error hsend]
    exact ⟨_, hlog, hsame, hnum, fun code hcode => absurd hcode (he code)⟩
  · rw [bind_of_ok hsend]
    have hkept := keeps_recvLogonReply noRequest_refl noRequest_trans noRequest_recvFrame
      (succPktId s.pcktid) s₁
    obtain ⟨more, hmore⟩ := keeps_recvLogonReply logGoesOn_refl logGoesOn_trans logGoesOn_recvFrame
      (succPktId s.pcktid) s₁
    cases hrecv : (recvLogonReply (succPktId s.pcktid)).run s₁ with
    | error e s₂ =>
      rw [hrecv] at hkept hmore
      rw [bind_of_error hrecv]
      refine ⟨_, Logged.trans hlog hmore, ⟨hkept.susyId_eq.trans hsame.1,
        hkept.serial_eq.trans hsame.2⟩, hnum.of_noRequest hkept, ?_⟩
      rintro code rfl
      obtain ⟨raws, raw, t, hdel, ⟨rest, hrest⟩, hraw⟩ :=
        recvLogonReply_rejected logGoesOn_refl logGoesOn_trans logGoesOn_recvFrame hrecv
      have hevents : more = (raws ++ [raw]).map (fun raw => .received (.ok raw)) ++ rest :=
        Logged.unique hmore (Logged.trans (Recorder.delivers_log hdel) hrest)
      refine ⟨raw, ?_, hid ▸ hraw⟩
      rw [hevents]
      simp
    | ok reply s₂ =>
      rw [hrecv] at hkept hmore
      rw [bind_of_ok hrecv]
      obtain ⟨raws, raw, t, hdel, rfl, hraw⟩ := recvLogonReply_delivers hrecv
      have hnum' := hnum.of_noRequest hkept
      refine ⟨_, Logged.trans hlog (Recorder.delivers_log hdel), ⟨hkept.susyId_eq.trans hsame.1,
        hkept.serial_eq.trans hsame.2⟩, ⟨hnum'.1, hnum'.2⟩, raw, ?_, hid ▸ hraw⟩
      rw [List.map_append, ← List.append_assoc, List.map_singleton, List.getLast?_concat]

/-- **The logoff and the logon**: the logoff is the next event in the log, whatever comes of it, and the
    verdict rests on replies to the logon. -/
theorem logonSteps_cases {n : Nat} {s : Session (Recorder T)} (h : Numbered n s) (nowEpoch : UInt32)
    (config : Session (Recorder T)) {r : Except SessionError Unit} {s' : Session (Recorder T)}
    (hr : value ((logonSteps nowEpoch config).run s) = r)
    (hs' : final ((logonSteps nowEpoch config).run s) = s') :
    ∃ data result io, l2FieldOf data = some (fieldNo n) ∧ Logged s (.sent data result :: io) s' ∧
      SameIdentity s s' ∧
      ((Numbered (n + 1) s' ∧ ∃ e, r = .error e ∧ NotRejected e) ∨
        (Numbered (n + 2) s' ∧ LogonVerdict (idNo (n + 2)) io r)) := by
  have hfield := l2FieldOf_logoffBody config.cfg.localBt (succPktId s.pcktid) config.appSerial
  have hfieldNo : succPktId s.pcktid ||| appPacketBit = fieldNo n := by
    rw [h.2]
    rfl
  rw [logonSteps, bind_of_ok (run_nextPcktid s)] at hr hs'
  rcases run_request h hfield with
    ⟨e, s₁, hlogoff, he, hnum, hsame, result, hlog⟩ | ⟨k, s₁, hlogoff, hnum, hsame, result, hlog⟩
  · rw [bind_of_error hlogoff] at hr hs'
    subst hs'
    exact ⟨_, result, [], hfield.trans (congrArg some hfieldNo), hlog, hsame,
      .inl ⟨hnum, e, hr.symm, he⟩⟩
  · rw [bind_of_ok hlogoff, bind_of_ok (run_nextPcktid s₁)] at hr hs'
    obtain ⟨io, hlog', hsame', hnum', hverdict⟩ := logon_cases hnum
      (l2FieldOf_logonBody config.cfg.localBt config.cfg.password config.cfg.userGroup
        (succPktId s₁.pcktid) config.appSerial nowEpoch) rfl
    rw [hs'] at hlog' hsame' hnum'
    rw [hr] at hverdict
    exact ⟨_, result, io, hfield.trans (congrArg some hfieldNo), Logged.trans hlog hlog',
      ⟨hsame'.1.trans hsame.1, hsame'.2.trans hsame.2⟩, .inr ⟨hnum', hverdict⟩⟩

/-! ## What calls return -/

def Request.isEventLog : Request → Bool
  | .queryEventLogForDevice .. => true
  | _ => false

namespace CallEntry

/-- All that passed through the transport, up to the end of the call. -/
def log (e : CallEntry T) : List IoEvent := e.after.transport.log

/-- The number of the first request of the call. -/
def firstRequest (e : CallEntry T) : Nat := (requests e.before.transport.log).length

/-- The frames received in the call. -/
def received (e : CallEntry T) : List (List UInt8) := (io e).filterMap receivedFrame

end CallEntry

/-- What a call returns, or leaves in the session, is read from replies to its own requests, and from no
    reply to one of the 32766 requests before the one in question. -/
structure NothingStale (e : CallEntry T) : Prop where
  /-- A query returns the body of the last frame received. -/
  body : ∀ r body, e.call = .request r → r.isEventLog = false →
    value (r.call.run e.before) = .ok body →
    ∃ raw, (CallEntry.received e).getLast? = some raw ∧ body = bodyOf raw ∧
      ¬ Stale (CallEntry.log e) (CallEntry.firstRequest e) raw
  /-- An event-log query returns the bodies of some of the frames received. -/
  records : ∀ r body, e.call = .request r → r.isEventLog = true →
    value (r.call.run e.before) = .ok body →
    ∃ answers : List (List UInt8), answers.Sublist (CallEntry.received e) ∧
      body = answers.flatMap bodyOf ∧
      ∀ raw ∈ answers, ¬ Stale (CallEntry.log e) (CallEntry.firstRequest e) raw
  /-- It is refused by the last frame received. -/
  refusal : ∀ r, e.call = .request r →
    value (r.call.run e.before) = .error (.protocol "event-log-retcode") →
    ∃ raw hdr data, (CallEntry.received e).getLast? = some raw ∧ l2Of raw = some (hdr, data) ∧
      hdr.errorCode ≠ 0 ∧ ¬ Stale (CallEntry.log e) (CallEntry.firstRequest e) raw
  /-- A handshake stops at its init and the identity stays, or it goes on and the identity is that of
      the frame received last before the second request. -/
  identity : ∀ nowEpoch, e.call = .handshakeAndLogon nowEpoch →
    ((requests (CallEntry.log e)).length < CallEntry.firstRequest e + 2 ∧
        SameIdentity e.before e.after) ∨
      ∃ front raw data result back hdr body,
        CallEntry.log e = front ++ .received (.ok raw) :: .sent data result :: back ∧
        (requests front).length = CallEntry.firstRequest e + 1 ∧ (l2FieldOf data).isSome ∧
        l2Of raw = some (hdr, body) ∧ e.after.inverterSusyId = hdr.appSusyId ∧
        e.after.inverterSerial = hdr.appSerial ∧
        ¬ Stale (CallEntry.log e) (CallEntry.firstRequest e) raw
  /-- A logon is accepted by the last frame received. -/
  loggedOn : ∀ nowEpoch, e.call = .handshakeAndLogon nowEpoch → e.result = .ok () →
    ∃ raw hdr data, (CallEntry.received e).getLast? = some raw ∧ l2Of raw = some (hdr, data) ∧
      hdr.errorCode = 0 ∧ ¬ Stale (CallEntry.log e) (CallEntry.firstRequest e + 2) raw
  /-- It is rejected with the code of a frame received. -/
  rejected : ∀ nowEpoch code, e.call = .handshakeAndLogon nowEpoch →
    e.result = .error (.logonFailed code) →
    ∃ raw hdr data, raw ∈ CallEntry.received e ∧ l2Of raw = some (hdr, data) ∧
      hdr.errorCode = code ∧ ¬ Stale (CallEntry.log e) (CallEntry.firstRequest e + 2) raw

@[simp] theorem filterMap_receivedFrame (raws : List (List UInt8)) :
    (raws.map fun raw => IoEvent.received (.ok raw)).filterMap receivedFrame = raws := by
  induction raws with
  | nil => rfl
  | cons raw raws ih => exact congrArg (raw :: ·) ih

omit [Transport T] in
theorem Numbered.length_requests {n : Nat} {s : Session (Recorder T)} (h : Numbered n s) :
    (requests s.transport.log).length = n := by
  rw [h.1, List.length_map, List.length_range]

omit [Transport T] in
/-- A frame with the packet id of the request just made is not stale. -/
theorem Numbered.not_stale_last {n : Nat} {s s' : Session (Recorder T)} (h : Numbered n s)
    (h' : Numbered (n + 1) s') {raw data : List UInt8} {hdr : L2Header}
    (hl2 : l2Of raw = some (hdr, data)) (hid : hdr.pktId = succPktId s.pcktid) :
    ¬ Stale s'.transport.log (requests s.transport.log).length raw := by
  rw [h.length_requests]
  exact not_stale h'.1 (Nat.lt_succ_self n) hl2 (hid.trans (congrArg succPktId h.2))

/-- The frames received behind one that was sent. -/
theorem received_of_delivers {s : Session (Recorder T)} {data : List UInt8} {n : Nat}
    {t t' : Recorder T} {raws : List (List UInt8)}
    (hsend : Transport.sendFrame s.transport data = (.ok n, t)) (hdel : Delivers s.frames t raws t')
    {s' : Session (Recorder T)} (hs' : s'.transport = t') :
    (eventsSince s s').filterMap receivedFrame = raws := by
  have hlog : Logged s ([.sent data (.ok n)] ++ raws.map fun raw => .received (.ok raw)) s' := by
    rw [Logged, hs', Recorder.delivers_log hdel, Recorder.log_of_sent hsend, List.append_assoc]
  rw [eventsSince_of_logged hlog, List.filterMap_append, filterMap_receivedFrame]
  rfl

/-- **A query** returns the body of the last frame received, which carries its packet id. -/
theorem queryForDevice_reads {s s' : Session (Recorder T)} (hin : s.state = .loggedIn)
    {susyId : UInt16} {serial : UInt32} {kind : QueryKind} {body : List UInt8}
    (h : (queryForDevice susyId serial kind).run s = .ok body s') :
    ∃ raw hdr, ((eventsSince s s').filterMap receivedFrame).getLast? = some raw ∧
      l2Of raw = some (hdr, body) ∧ hdr.pktId = succPktId s.pcktid := by
  obtain ⟨others, raw, t, hdr, ⟨⟨n, t₁, hsend, hdel⟩, -, -⟩, hl2, hid, rfl⟩ :=
    (run_queryForDevice_ok_iff hin).mp h
  refine ⟨raw, hdr, ?_, hl2, hid⟩
  rw [received_of_delivers hsend hdel rfl, List.getLast?_concat]


theorem bodyOf_eq {raw data : List UInt8} {hdr : L2Header} (h : l2Of raw = some (hdr, data)) :
    bodyOf raw = data := by
  rw [bodyOf, h]
  rfl

/-- **An event-log query** returns the bodies of the frames received that carry its packet id. -/
theorem queryEventLog_reads {s s' : Session (Recorder T)} (hin : s.state = .loggedIn)
    {susyId : UInt16} {serial startUnix endUnix : UInt32} {body : List UInt8}
    (h : (queryEventLogForDevice susyId serial startUnix endUnix).run s = .ok body s') :
    body = (answersOf (succPktId s.pcktid)
      ((eventsSince s s').filterMap receivedFrame)).flatMap bodyOf := by
  rcases hsend : Transport.sendFrame s.transport (s.eventLogWire susyId serial startUnix endUnix)
    with ⟨e | n, t⟩
  · rw [run_queryEventLogForDevice_unsent hin susyId serial startUnix endUnix hsend] at h
    nomatch h
  · rw [run_queryEventLogForDevice hin susyId serial startUnix endUnix hsend] at h
    obtain ⟨raws, t', hdel, rfl, hbody⟩ := collectFragments_sourced h
    rw [hbody, received_of_delivers hsend hdel rfl, List.nil_append]

/-- It is refused by the last frame received, which carries its packet id. -/
theorem queryEventLog_refused {s s' : Session (Recorder T)} (hin : s.state = .loggedIn)
    {susyId : UInt16} {serial startUnix endUnix : UInt32}
    (h : (queryEventLogForDevice susyId serial startUnix endUnix).run s
      = .error (.protocol "event-log-retcode") s') :
    ∃ raw hdr data, ((eventsSince s s').filterMap receivedFrame).getLast? = some raw ∧
      l2Of raw = some (hdr, data) ∧ hdr.errorCode ≠ 0 ∧ hdr.pktId = succPktId s.pcktid := by
  rcases hsend : Transport.sendFrame s.transport (s.eventLogWire susyId serial startUnix endUnix)
    with ⟨e | n, t⟩
  · rw [run_queryEventLogForDevice_unsent hin susyId serial startUnix endUnix hsend] at h
    nomatch (EStateM.Result.error.inj h).1
  · rw [run_queryEventLogForDevice hin susyId serial startUnix endUnix hsend] at h
    obtain ⟨raws, raw, t', hdr, data, hdel, rfl, hl2, hid, hcode⟩ :=
      collectFragments_refusal_sourced h
    refine ⟨raw, hdr, data, ?_, hl2, hcode, hid⟩
    rw [received_of_delivers hsend hdel rfl, List.getLast?_concat]

/-- A query never ends in a refusal. -/
theorem queryForDevice_not_refused {s s' : Session (Recorder T)} (hin : s.state = .loggedIn)
    {susyId : UInt16} {serial : UInt32} {kind : QueryKind} :
    (queryForDevice susyId serial kind).run s ≠ .error (.protocol "event-log-retcode") s' := by
  intro h
  rw [run_queryForDevice hin] at h
  rcases hsend : Transport.sendFrame s.transport (s.queryWire susyId serial kind) with ⟨e | n, t⟩
  · rw [hsend] at h
    nomatch (EStateM.Result.error.inj h).1
  · rw [hsend] at h
    simp only at h
    rcases hpoll : poll s.frames (pktIdMatch (succPktId s.pcktid)) 16 t with ⟨(_ | e) | p, t'⟩
    · rw [hpoll] at h
      nomatch (EStateM.Result.error.inj h).1
    · rw [hpoll] at h
      have hkind := (EStateM.Result.error.inj h).1
      cases e <;> nomatch hkind
    · rw [hpoll] at h
      nomatch h


/-! ### Requests -/

theorem call_reads_last {s s' : Session (Recorder T)} (hin : s.state = .loggedIn) {r : Request}
    (hkind : r.isEventLog = false) {body : List UInt8} (h : r.call.run s = .ok body s') :
    ∃ raw hdr, ((eventsSince s s').filterMap receivedFrame).getLast? = some raw ∧
      l2Of raw = some (hdr, body) ∧ hdr.pktId = succPktId s.pcktid := by
  cases r with
  | query kind =>
    rw [Request.call, query, bind_of_ok (EStateM.run_get s)] at h
    exact queryForDevice_reads hin h
  | queryForDevice susyId serial kind => exact queryForDevice_reads hin h
  | queryEventLogForDevice susyId serial startUnix endUnix => cases hkind

theorem call_reads_records {s s' : Session (Recorder T)} (hin : s.state = .loggedIn) {r : Request}
    (hkind : r.isEventLog = true) {body : List UInt8} (h : r.call.run s = .ok body s') :
    body = (answersOf (succPktId s.pcktid)
      ((eventsSince s s').filterMap receivedFrame)).flatMap bodyOf := by
  cases r with
  | query kind => nomatch hkind
  | queryForDevice susyId serial kind => nomatch hkind
  | queryEventLogForDevice susyId serial startUnix endUnix => exact queryEventLog_reads hin h

theorem call_refused {s s' : Session (Recorder T)} (hin : s.state = .loggedIn) {r : Request}
    (h : r.call.run s = .error (.protocol "event-log-retcode") s') :
    ∃ raw hdr data, ((eventsSince s s').filterMap receivedFrame).getLast? = some raw ∧
      l2Of raw = some (hdr, data) ∧ hdr.errorCode ≠ 0 ∧ hdr.pktId = succPktId s.pcktid := by
  cases r with
  | query kind =>
    rw [Request.call, query, bind_of_ok (EStateM.run_get s)] at h
    exact absurd h (queryForDevice_not_refused hin)
  | queryForDevice susyId serial kind => exact absurd h (queryForDevice_not_refused hin)
  | queryEventLogForDevice susyId serial startUnix endUnix => exact queryEventLog_refused hin h

omit [Transport T] in
theorem ok_of_value {α : Type} {x : SessionM T α} {s : Session T} {a : α}
    (h : value (x.run s) = .ok a) : x.run s = .ok a (final (x.run s)) := by
  cases hrun : x.run s with
  | ok b s' =>
    rw [hrun] at h
    rw [Except.ok.inj h]
    rfl
  | error e s' =>
    rw [hrun] at h
    nomatch h

omit [Transport T] in
theorem error_of_value {α : Type} {x : SessionM T α} {s : Session T} {e : SessionError}
    (h : value (x.run s) = .error e) : x.run s = .error e (final (x.run s)) := by
  cases hrun : x.run s with
  | ok b s' =>
    rw [hrun] at h
    nomatch h
  | error e' s' =>
    rw [hrun] at h
    rw [Except.error.inj h]
    rfl

/-- **Requests** read nothing stale. -/
theorem nothingStale_request {n : Nat} {s : Session (Recorder T)} (h : Numbered n s) (r : Request) :
    NothingStale (entry callStep (.request r) s) := by
  by_cases hin : s.state = .loggedIn
  · have hnum : Numbered (n + 1) (final (r.call.run s)) := h.call hin r
    refine ⟨?_, ?_, ?_, nofun, nofun, nofun⟩
    · intro r' body hcall hkind hvalue
      obtain rfl := Call.request.inj hcall
      obtain ⟨raw, hdr, hlast, hl2, hid⟩ := call_reads_last hin hkind (ok_of_value hvalue)
      exact ⟨raw, hlast, (bodyOf_eq hl2).symm, h.not_stale_last hnum hl2 hid⟩
    · intro r' body hcall hkind hvalue
      obtain rfl := Call.request.inj hcall
      refine ⟨_, List.filter_sublist, call_reads_records hin hkind (ok_of_value hvalue), ?_⟩
      intro raw hraw
      have hmatch := (List.mem_filter.mp hraw).2
      obtain ⟨⟨bytes, reply⟩, hsome⟩ := Option.isSome_iff_exists.mp hmatch
      obtain ⟨-, hdr, data, hl2, hid, -⟩ := pktIdMatch_eq_some.mp hsome
      exact h.not_stale_last hnum hl2 hid
    · intro r' hcall hvalue
      obtain rfl := Call.request.inj hcall
      obtain ⟨raw, hdr, data, hlast, hl2, hcode, hid⟩ := call_refused hin (error_of_value hvalue)
      exact ⟨raw, hdr, data, hlast, hl2, hcode, h.not_stale_last hnum hl2 hid⟩
  · obtain ⟨e, hrun, he⟩ := run_call_not_logged_in hin r
    have hvalue : value (r.call.run s) = .error e := by
      rw [hrun]
      rfl
    refine ⟨?_, ?_, ?_, nofun, nofun, nofun⟩
    · intro r' body hcall hkind hok
      obtain rfl := Call.request.inj hcall
      nomatch hvalue.symm.trans hok
    · intro r' body hcall hkind hok
      obtain rfl := Call.request.inj hcall
      nomatch hvalue.symm.trans hok
    · intro r' hcall hrefused
      obtain rfl := Call.request.inj hcall
      have heq := Except.error.inj (hvalue.symm.trans hrefused)
      rcases he with rfl | rfl <;> nomatch heq

/-! ### The handshake -/

/-- How a handshake goes, whatever comes in: it ends before an init reply is adopted, or behind one. -/
theorem handshake_cases {n : Nat} {s : Session (Recorder T)} (h : Numbered n s) (nowEpoch : UInt32)
    {r : Except SessionError Unit} {s' : Session (Recorder T)}
    (hr : value ((handshakeAndLogon nowEpoch).run s) = r)
    (hs' : final ((handshakeAndLogon nowEpoch).run s) = s') :
    (∃ k ≤ 1, Numbered (n + k) s' ∧ SameIdentity s s' ∧ ∃ e, r = .error e ∧ NotRejected e) ∨
      ∃ front raw hdr body data result io, l2FieldOf data = some (fieldNo (n + 1)) ∧
        s'.transport.log = front ++ .received (.ok raw) :: .sent data result :: io ∧
        (requests front).length = n + 1 ∧ l2Of raw = some (hdr, body) ∧ hdr.pktId = idNo (n + 1) ∧
        s'.inverterSusyId = hdr.appSusyId ∧ s'.inverterSerial = hdr.appSerial ∧
        ((Numbered (n + 2) s' ∧ ∃ e, r = .error e ∧ NotRejected e) ∨
          (Numbered (n + 3) s' ∧ LogonVerdict (idNo (n + 3)) io r)) := by
  rw [handshakeAndLogon_eq] at hr hs'
  rcases helloSteps_leadsTo (initSteps nowEpoch) s with
    ⟨e, s₁, hrun, hsame, he⟩ | ⟨bt, s₁, hsame, hrun⟩
  · rw [hrun] at hr hs'
    subst hs'
    exact .inl ⟨0, Nat.zero_le 1, h.of_noRequest hsame, hsame.sameIdentity, e, hr.symm, he⟩
  · rw [hrun] at hr hs'
    rcases initSteps_cases (h.of_noRequest hsame) nowEpoch bt with
      ⟨e, s₂, hrun₂, he, hnum, hsame₂⟩ |
      ⟨config, s₂, front, raw, hdr, data, hrun₂, hnum, hlog, hl2, hid, hsusy, hserial⟩
    · rw [hrun₂] at hr hs'
      subst hs'
      exact .inl ⟨1, Nat.le_refl 1, hnum, ⟨hsame₂.1.trans hsame.susyId_eq,
        hsame₂.2.trans hsame.serial_eq⟩, e, hr.symm, he⟩
    · rw [hrun₂] at hr hs'
      obtain ⟨data', result, io, hfield, hlog', hsame', hend⟩ :=
        logonSteps_cases hnum nowEpoch config hr hs'
      have hfront : (requests front).length = n + 1 := by
        have hcount := hnum.length_requests
        rw [hlog, requests_append, List.length_append] at hcount
        exact hcount
      refine .inr ⟨front, raw, hdr, data, data', result, io, hfield, ?_, hfront, hl2, hid,
        hsame'.1.trans hsusy, hsame'.2.trans hserial, hend⟩
      rw [hlog', hlog, List.append_assoc]
      rfl

theorem IsLogonReply.l2Of {pktId code : UInt16} {raw : List UInt8} (h : IsLogonReply pktId raw code) :
    ∃ hdr data, Session.l2Of raw = some (hdr, data) ∧ hdr.pktId = pktId ∧ hdr.errorCode = code := by
  obtain ⟨frame, hdr, data, hparse, -, hdec, hid, hcode⟩ := h
  exact ⟨hdr, data, l2Of_of_decodeL2 hparse hdec, hid, hcode⟩

omit [Transport T] in
/-- What is behind a request that was made since `s` is in the events since `s`. -/
theorem eventsSince_of_requests {s s' : Session (Recorder T)} {front back : List IoEvent}
    (hgoes : LogGoesOn s s') (hlog : s'.transport.log = front ++ back)
    (hmore : (requests s.transport.log).length < (requests front).length) :
    ∃ between, eventsSince s s' = between ++ back := by
  obtain ⟨io, hio⟩ := hgoes
  rw [eventsSince_of_logged hio]
  rcases List.append_eq_append_iff.mp (hio.symm.trans hlog) with ⟨a, rfl, rfl⟩ | ⟨a, hs, rfl⟩
  · exact ⟨a, rfl⟩
  · rw [hs, requests_append, List.length_append] at hmore
    omega

omit [Transport T] in
/-- What a logon that succeeds was accepted by, among all frames received. -/
theorem LogonVerdict.accepted {pktId : UInt16} {io : List IoEvent}
    (h : LogonVerdict pktId io (.ok ())) (before : List IoEvent) :
    ∃ raw hdr data, ((before ++ io).filterMap receivedFrame).getLast? = some raw ∧
      Session.l2Of raw = some (hdr, data) ∧ hdr.pktId = pktId ∧ hdr.errorCode = 0 := by
  obtain ⟨raw, hlast, hreply⟩ := h
  obtain ⟨hdr, data, hl2, hid, hcode⟩ := hreply.l2Of
  obtain ⟨front, rfl⟩ := List.getLast?_eq_some_iff.mp hlast
  refine ⟨raw, hdr, data, ?_, hl2, hid, hcode⟩
  rw [← List.append_assoc, List.filterMap_append]
  exact List.getLast?_concat

omit [Transport T] in
/-- What a rejected logon has its code from. -/
theorem LogonVerdict.rejected {pktId code : UInt16} {io : List IoEvent}
    (h : LogonVerdict pktId io (.error (.logonFailed code))) (before : List IoEvent) :
    ∃ raw hdr data, raw ∈ (before ++ io).filterMap receivedFrame ∧
      Session.l2Of raw = some (hdr, data) ∧ hdr.pktId = pktId ∧ hdr.errorCode = code := by
  obtain ⟨raw, hmem, hreply⟩ := h code rfl
  obtain ⟨hdr, data, hl2, hid, hcode⟩ := hreply.l2Of
  exact ⟨raw, hdr, data, List.mem_filterMap.mpr ⟨_, List.mem_append_right _ hmem, rfl⟩, hl2, hid,
    hcode⟩

/-- **Handshakes** read nothing stale. -/
theorem nothingStale_handshake {n : Nat} {s : Session (Recorder T)} (h : Numbered n s)
    (nowEpoch : UInt32) : NothingStale (entry callStep (.handshakeAndLogon nowEpoch) s) := by
  let s' := final ((handshakeAndLogon nowEpoch).run s)
  have hgoes : LogGoesOn s s' := by
    obtain ⟨io, hlog, -⟩ := handshake_spec nowEpoch s
    exact ⟨io, hlog⟩
  have hfirst : CallEntry.firstRequest (entry callStep (.handshakeAndLogon nowEpoch) s) = n :=
    h.length_requests
  have hresult : (entry callStep (.handshakeAndLogon nowEpoch) s).result
      = value ((handshakeAndLogon nowEpoch).run s) := by
    show (value ((handshakeAndLogon nowEpoch).run s)).map _ = _
    cases value ((handshakeAndLogon nowEpoch).run s) <;> rfl
  have hs' : final ((handshakeAndLogon nowEpoch).run s) = s' := rfl
  rcases handshake_cases h nowEpoch rfl hs' with
    ⟨k, hk, hnum, hsame, e, he, hnot⟩ |
    ⟨front, raw, hdr, body, data, result, io, hfield, hlog, hcount, hl2, hid, hsusy, hserial, hend⟩
  · rw [he] at hresult
    refine ⟨nofun, nofun, nofun, ?_, ?_, ?_⟩
    · intro now hcall
      refine .inl ⟨?_, hsame⟩
      show (requests s'.transport.log).length < _
      rw [hfirst, hnum.length_requests]
      omega
    · intro now hcall hok
      nomatch hresult.symm.trans hok
    · intro now code hcall hrejected
      exact absurd (Except.error.inj (hresult.symm.trans hrejected)) (hnot code)
  · have hidentity : ¬ Stale s'.transport.log n raw := by
      rcases hend with ⟨hnum, -⟩ | ⟨hnum, -⟩
      · exact not_stale hnum.1 (by omega) hl2 hid
      · exact not_stale hnum.1 (by omega) hl2 hid
    have hlog' : s'.transport.log = (front ++ [.received (.ok raw), .sent data result]) ++ io := by
      rw [hlog, List.append_assoc]
      rfl
    obtain ⟨between, hevents⟩ := eventsSince_of_requests hgoes hlog'
      (by rw [requests_append, List.length_append, h.length_requests]; omega)
    have hreceived : CallEntry.received (entry callStep (.handshakeAndLogon nowEpoch) s)
        = (between ++ io).filterMap receivedFrame := congrArg (List.filterMap receivedFrame) hevents
    refine ⟨nofun, nofun, nofun, ?_, ?_, ?_⟩
    · intro now hcall
      rw [hfirst]
      exact .inr ⟨front, raw, data, result, io, hdr, body, hlog, hcount, by rw [hfield]; rfl, hl2,
        hsusy, hserial, hidentity⟩
    · intro now hcall hok
      rcases hend with ⟨-, e, he, -⟩ | ⟨hnum, hverdict⟩
      · rw [hresult, he] at hok
        nomatch hok
      · rw [← hresult, hok] at hverdict
        obtain ⟨raw', hdr', data', hlast, hl2', hid', hcode⟩ := hverdict.accepted between
        rw [hreceived, hfirst]
        exact ⟨raw', hdr', data', hlast, hl2', hcode, not_stale hnum.1 (by omega) hl2' hid'⟩
    · intro now code hcall hrejected
      rcases hend with ⟨-, e, he, hnot⟩ | ⟨hnum, hverdict⟩
      · rw [hresult, he] at hrejected
        exact absurd (Except.error.inj hrejected) (hnot code)
      · rw [← hresult, hrejected] at hverdict
        obtain ⟨raw', hdr', data', hmem, hl2', hid', hcode⟩ := hverdict.rejected between
        rw [hreceived, hfirst]
        exact ⟨raw', hdr', data', hmem, hl2', hcode, not_stale hnum.1 (by omega) hl2' hid'⟩

/-! ## Whole runs -/

theorem Numbered.close {n : Nat} {s : Session (Recorder T)} (h : Numbered n s) :
    Numbered n (final (Session.close.run s)) := by
  rw [final_close]
  refine ⟨?_, h.2⟩
  show requests (Transport.close s.transport).2.log = _
  rw [Recorder.close_log, requests_append, h.1]
  exact List.append_nil _

/-- **One call** keeps the numbering. -/
theorem Numbered.callStep {n : Nat} {s : Session (Recorder T)} (h : Numbered n s) (c : Call) :
    ∃ m, Numbered m (callStep c s).2 := by
  cases c with
  | handshakeAndLogon nowEpoch =>
    rcases handshake_cases h nowEpoch rfl rfl with
      ⟨k, -, hnum, -⟩ | ⟨_, _, _, _, _, _, _, -, -, -, -, -, -, -, hend⟩
    · exact ⟨n + k, hnum⟩
    · rcases hend with ⟨hnum, -⟩ | ⟨hnum, -⟩
      · exact ⟨n + 2, hnum⟩
      · exact ⟨n + 3, hnum⟩
  | request r =>
    by_cases hin : s.state = .loggedIn
    · exact ⟨n + 1, h.call hin r⟩
    · refine ⟨n, ?_⟩
      rw [show (Session.callStep (.request r) s).2 = s from (request_refused hin r).2]
      exact h
  | close => exact ⟨n, h.close⟩
  | gracefulClose =>
    show ∃ m, Numbered m (final (Session.gracefulClose.run s))
    rw [Session.gracefulClose, bind_of_ok (EStateM.run_get s)]
    by_cases hin : s.state = .loggedIn
    · rw [if_pos hin, bind_of_ok (run_nextPcktid s), bind_of_ok (run_attempt _ _)]
      have hsent := h.request (l2FieldOf_logoffBody s.cfg.localBt (succPktId s.pcktid) s.appSerial)
      exact ⟨n + 1, hsent.close⟩
    · rw [if_neg hin]
      exact ⟨n, h.close⟩

theorem nothingStale_callStep {n : Nat} {s : Session (Recorder T)} (h : Numbered n s) (c : Call) :
    NothingStale (entry Session.callStep c s) := by
  cases c with
  | handshakeAndLogon nowEpoch => exact nothingStale_handshake h nowEpoch
  | request r => exact nothingStale_request h r
  | close => exact ⟨nofun, nofun, nofun, nofun, nofun, nofun⟩
  | gracefulClose => exact ⟨nofun, nofun, nofun, nofun, nofun, nofun⟩

/-- **No stale reply is ever returned.**  For every sequence of calls on a new session and every
    transport, whatever it delivers and however late: what a call returns, or leaves in the session,
    is read from frames that do not echo the packet-id field of any of the 32766 requests before the
    one they are returned for. -/
theorem stale_replies_never_returned (t : T) (cfg : SessionConfig) (appSerial : UInt32)
    (calls : List Call) : ∀ e ∈ lifetime t cfg appSerial calls, NothingStale e := by
  intro e he
  obtain ⟨past, future, hsplit⟩ := List.append_of_mem he
  have hnew : ∃ n, Numbered n (newWithAppSerial (⟨t, []⟩ : Recorder T) cfg appSerial) :=
    ⟨0, rfl, rfl⟩
  obtain ⟨n, hn⟩ := history_before (I := fun _ s => ∃ n, Numbered n s)
    (fun _ c s ⟨n, h⟩ => h.callStep c) hnew hsplit
  rw [eq_entry_of_mem he]
  exact nothingStale_callStep hn e.call

/-- A run of a handshake and a query. -/
theorem stale_replies_never_returned_handshake :
    NothingStale (entry callStep (.handshakeAndLogon 0)
      (freshSession (.fill 1) handshakeReplies)) :=
  stale_replies_never_returned ⟨handshakeReplies, [], false⟩
    ⟨.fill 1, .fill 2, "0000", .user, 1000⟩ 900000000
    [.handshakeAndLogon 0, .request (.query .spotAcTotalPower)] _ List.mem_cons_self

end Session

end HassSma
