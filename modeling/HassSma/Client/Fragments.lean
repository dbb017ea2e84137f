/-
  Where an event-log query ends (`query_event_log_for_device` in `inverter-client/src/session.rs`).

  The query collects fragments until one has no record behind its echo, or until it has 32.  Two things
  follow from that, and from the error it makes of a fragment that carries an error code.

  1. **Failures stay with the device, except one.**  On a transport that does not break, a query can
     only end in silence, which is no reason to reconnect.  An event-log query can also end in the
     inverter's own refusal, and that one counts as a broken session (`failures_per_device_iff`).
  2. **The end marker is not looked at.**  The last fragment of a reply has fragment id zero.  The query
     ends there exactly when all fragments before it have records, and it has none or is the 32nd
     (`event_log_ends_at_marker_iff`).
-/
import HassSma.Client.EventLog
import HassSma.Client.Lifecycle
import HassSma.Client.Silence

namespace HassSma

open Bytes Fallible Polling

namespace Session

variable {T : Type} [Transport T]

/-! ## On a transport that does not break -/

section Steady

variable {P : T → Prop} (hsteady : Steady P)
include hsteady

theorem steady_delivers {s : Session T} {t t' : T} {raws : List (List UInt8)} (ht : P t)
    (hdel : Delivers s.frames t raws t') : P t' := by
  induction hdel with
  | nil t => exact ht
  | @cons t t₁ t₂ raw raws hnext _ ih =>
    refine ih ?_
    have hkept := (hsteady.receives ht s.cfg.timeoutMs).1
    rw [show Transport.recvFrame t s.cfg.timeoutMs = (.ok raw, t₁) from hnext] at hkept
    exact hkept

/-- A receive loop can only fail by silence. -/
theorem recvL2WithPktId_error {s s' : Session T} {pktId : UInt16} {phase : String}
    {e : SessionError} (hs : P s.transport)
    (h : (recvL2WithPktId pktId phase).run s = .error e s') : e = .silent phase := by
  rw [run_recvL2WithPktId] at h
  rcases hpoll : poll s.frames (pktIdMatch pktId) 16 s.transport with ⟨(_ | e') | b, t'⟩
  · rw [hpoll] at h
    exact (EStateM.Result.error.inj h).1.symm
  · rw [hpoll] at h
    obtain ⟨bs, t₁, -, hdel, -, herr⟩ := poll_eq_error_iff.mp hpoll
    have hreceive := (hsteady.receives (steady_delivers hsteady hs hdel) s.cfg.timeoutMs).2
    obtain ⟨ms, rfl⟩ := hreceive e' (congrArg Prod.fst herr)
    exact (EStateM.Result.error.inj h).1.symm
  · rw [hpoll] at h
    nomatch h

end Steady

/-- What the receive loop takes: the first frame with the packet id, within sixteen. -/
theorem recvL2WithPktId_eq_ok_iff {s s' : Session T} {pktId : UInt16} {phase : String}
    {raw : List UInt8} {reply : L2Reply} :
    (recvL2WithPktId pktId phase).run s = .ok (raw, reply) s' ↔
      ∃ others t, others.length < 16 ∧ Delivers s.frames s.transport (others ++ [raw]) t ∧
        (∀ o ∈ others, pktIdMatch pktId o = none) ∧ pktIdMatch pktId raw = some (raw, reply) ∧
        s' = { s with transport := t } := by
  rw [run_recvL2WithPktId, polled_eq_ok]
  constructor
  · rintro ⟨t, hpoll, rfl⟩
    obtain ⟨others, last, hfew, hdel, hskip, hmatch⟩ := poll_eq_ok_iff.mp hpoll
    obtain ⟨rfl, -⟩ := pktIdMatch_eq_some.mp hmatch
    exact ⟨others, t, hfew, hdel, hskip, hmatch, rfl⟩
  · rintro ⟨others, t, hfew, hdel, hskip, hmatch, rfl⟩
    exact ⟨t, poll_found hdel hskip hmatch hfew, rfl⟩

/-! ## A refusal among the fragments -/

/-- While the query still collects, a fragment comes in that carries an error code: at most `n - 1`
    fragments with records before it, and no sixteen frames in a row without the packet id. -/
def Refused (s : Session T) (pktId : UInt16) (n : Nat) (t : T) : Prop :=
  ∃ raws last reply t', Delivers s.frames t (raws ++ [last]) t' ∧
    ShortGaps (pktIdMatch pktId) 16 raws ∧ (raws.filterMap (pktIdMatch pktId)).length < n ∧
    (∀ f ∈ raws.filterMap (pktIdMatch pktId), f.2.errorCode = 0 ∧ 12 < f.2.body.length) ∧
    pktIdMatch pktId last = some (last, reply) ∧ reply.errorCode ≠ 0

/-- The fragments that the query does not go on behind. -/
def lastFragment (f : List UInt8 × L2Reply) : Option (List UInt8 × L2Reply) :=
  if f.2.errorCode = 0 ∧ 12 < f.2.body.length then none else some f

theorem lastFragment_eq_none {f : List UInt8 × L2Reply} :
    lastFragment f = none ↔ f.2.errorCode = 0 ∧ 12 < f.2.body.length := by
  rw [lastFragment]
  split
  · rename_i hgood
    exact iff_of_true rfl hgood
  · rename_i hgood
    exact iff_of_false nofun hgood

theorem lastFragment_eq_some {f g : List UInt8 × L2Reply} :
    lastFragment f = some g ↔ g = f ∧ ¬ (f.2.errorCode = 0 ∧ 12 < f.2.body.length) := by
  rw [lastFragment]
  split
  · rename_i hgood
    exact iff_of_false nofun fun h => h.2 hgood
  · rename_i hgood
    rw [and_iff_left hgood, Option.some.injEq, eq_comm]

/-- A refusal is what polls for the last fragment find first. -/
theorem refused_iff_polls {s : Session T} {pktId : UInt16} {n : Nat} {t : T} :
    Refused s pktId n t ↔
      ∃ f t', polls s.frames (pktIdMatch pktId) 16 lastFragment n t = (.ok f, t') ∧
        f.2.errorCode ≠ 0 := by
  constructor
  · rintro ⟨raws, last, reply, t', hdel, hgaps, hcount, hgood, hlast, hcode⟩
    refine ⟨(last, reply), t', polls_eq_ok_iff.mpr ⟨raws, last, (last, reply), hdel, hgaps, hcount,
      fun f hf => lastFragment_eq_none.mpr (hgood f hf), hlast, ?_⟩, hcode⟩
    exact lastFragment_eq_some.mpr ⟨rfl, fun h => hcode h.1⟩
  · rintro ⟨f, t', hpolls, hcode⟩
    obtain ⟨raws, last, ⟨bytes, reply⟩, hdel, hgaps, hcount, hgood, hlast, hstop⟩ :=
      polls_eq_ok_iff.mp hpolls
    obtain ⟨rfl, -⟩ := pktIdMatch_eq_some.mp hlast
    obtain ⟨rfl, -⟩ := lastFragment_eq_some.mp hstop
    exact ⟨raws, bytes, reply, t', hdel, hgaps, hcount,
      fun f hf => lastFragment_eq_none.mp (hgood f hf), hlast, hcode⟩

/-- **How collecting ends in a refusal**: exactly when one comes before the last fragment. -/
theorem collectFragments_refused_iff {pktId : UInt16} {n : Nat} {aggregated : List UInt8}
    {s : Session T} :
    (∃ s', (collectFragments pktId n aggregated).run s
        = .error (.protocol "event-log-retcode") s') ↔ Refused s pktId n s.transport := by
  rw [refused_iff_polls]
  induction n generalizing s aggregated with
  | zero =>
    refine iff_of_false ?_ ?_
    · rintro ⟨s', h⟩
      cases h
    · rintro ⟨f, t', h, -⟩
      cases h
  | succ n ih =>
    rw [collectFragments, EStateM.run_bind, run_recvL2WithPktId]
    rcases hpoll : poll s.frames (pktIdMatch pktId) 16 s.transport
      with ⟨(_ | e) | ⟨raw, reply⟩, t⟩
    · simp only [polls, hpoll]
      refine iff_of_false ?_ ?_
      · rintro ⟨s', h⟩
        cases h
      · rintro ⟨f, t', h, -⟩
        cases h
    · simp only [polls, hpoll]
      refine iff_of_false ?_ ?_
      · rintro ⟨s', h⟩
        cases e <;> cases h
      · rintro ⟨f, t', h, -⟩
        cases h
    · simp only [polls, hpoll, polled]
      by_cases hgood : reply.errorCode = 0 ∧ 12 < reply.body.length
      · have hgo : lastFragment (raw, reply) = none := lastFragment_eq_none.mpr hgood
        rw [hgo, if_neg (not_not_intro hgood.1), if_neg (by omega), if_neg (by omega)]
        exact ih (s := { s with transport := t })
      · have hstop : lastFragment (raw, reply) = some (raw, reply) :=
          lastFragment_eq_some.mpr ⟨rfl, hgood⟩
        rw [hstop]
        simp only
        by_cases hcode : reply.errorCode = 0
        · rw [if_neg (not_not_intro hcode)]
          have hshort : ¬ 12 < reply.body.length := fun h => hgood ⟨hcode, h⟩
          refine iff_of_false ?_ ?_
          · rintro ⟨s', h⟩
            split at h
            · cases h
            · rw [if_pos (by omega)] at h
              cases h
          · rintro ⟨f, t', h, hne⟩
            obtain ⟨hf, -⟩ := Prod.mk.inj h
            rw [← Except.ok.inj hf] at hne
            exact hne hcode
        · rw [if_pos hcode]
          exact iff_of_true ⟨_, rfl⟩ ⟨_, _, rfl, hcode⟩

/-- On a transport that does not break, the other way is silence. -/
theorem collectFragments_error {P : T → Prop} (hsteady : Steady P) {pktId : UInt16} {n : Nat}
    {aggregated : List UInt8} {s s' : Session T} {e : SessionError} (hs : P s.transport)
    (h : (collectFragments pktId n aggregated).run s = .error e s') :
    e = .silent "event-log" ∨ e = .protocol "event-log-retcode" := by
  induction n generalizing s aggregated with
  | zero => cases h
  | succ n ih =>
    rw [collectFragments, EStateM.run_bind] at h
    cases hrecv : (recvL2WithPktId pktId "event-log").run s with
    | error e' s₁ =>
      rw [hrecv] at h
      obtain ⟨rfl, -⟩ := EStateM.Result.error.inj h
      exact .inl (recvL2WithPktId_error hsteady hs hrecv)
    | ok p s₁ =>
      obtain ⟨raw, reply⟩ := p
      rw [hrecv] at h
      obtain ⟨others, t, -, hdel, -, -, rfl⟩ := recvL2WithPktId_eq_ok_iff.mp hrecv
      simp only at h
      split at h
      · exact .inr (EStateM.Result.error.inj h).1.symm
      · split at h
        · cases h
        · split at h
          · cases h
          · exact ih (steady_delivers hsteady hs hdel) h

/-! ## Failures per device -/

/-- No error of a query or an event-log query is fatal to the session, and both leave it logged in. -/
def PerDevice (s : Session T) (susyId : UInt16) (serial : UInt32) (kind : QueryKind)
    (startUnix endUnix : UInt32) : Prop :=
  (∀ e s', (queryForDevice susyId serial kind).run s = .error e s' → e.isSessionFatal = false) ∧
    (∀ e s', (queryEventLogForDevice susyId serial startUnix endUnix).run s = .error e s' →
      e.isSessionFatal = false) ∧
    (final ((queryForDevice susyId serial kind).run s)).state = .loggedIn ∧
    (final ((queryEventLogForDevice susyId serial startUnix endUnix).run s)).state = .loggedIn

/-- The inverter answers the event-log query with an error code, in its first fragment or in a later
    one that the query gets to. -/
def RefusesEventLog (s : Session T) (susyId : UInt16) (serial startUnix endUnix : UInt32) : Prop :=
  ∃ n t, Transport.sendFrame s.transport (s.eventLogWire susyId serial startUnix endUnix) = (.ok n, t) ∧
    Refused s (succPktId s.pcktid) 32 t

/-- **When failures stay with the device**: on a transport that does not break, the errors of queries
    and event-log queries are never fatal, exactly unless an event-log fragment carries an error
    code.  The session stays logged in either way. -/
theorem failures_per_device_iff {P : T → Prop} (hsteady : Steady P) {s : Session T}
    (hs : P s.transport) (hin : s.state = .loggedIn) (susyId : UInt16) (serial : UInt32)
    (kind : QueryKind) (startUnix endUnix : UInt32) :
    PerDevice s susyId serial kind startUnix endUnix ↔
      ¬ RefusesEventLog s susyId serial startUnix endUnix := by
  obtain ⟨n, t, hsend, ht⟩ := hsteady.sends hs (s.eventLogWire susyId serial startUnix endUnix)
  have hrun := run_queryEventLogForDevice hin susyId serial startUnix endUnix hsend
  constructor
  · rintro ⟨-, hevents, -, -⟩ ⟨n', t', hsend', hrefused⟩
    obtain ⟨-, rfl⟩ := Prod.mk.inj (hsend.symm.trans hsend')
    obtain ⟨s', hfail⟩ := (@collectFragments_refused_iff _ _ _ _ []
      { s.advance with transport := t }).mpr hrefused
    exact nomatch hevents _ s' (hrun.trans hfail)
  · intro hnot
    refine ⟨?_, ?_, ?_, ?_⟩
    · intro e s' hfail
      obtain ⟨n', t', hsend', ht'⟩ := hsteady.sends hs (s.queryWire susyId serial kind)
      have hquery : OkOrSilent (value ((queryForDevice susyId serial kind).run s)) := by
        rw [okOrSilent_iff hin hsend']
        intro others t₁ _ hdel _
        exact (hsteady.receives (steady_delivers hsteady ht' hdel) s.cfg.timeoutMs).2
      rw [hfail] at hquery
      rcases hquery with ⟨body, hok⟩ | hsilent
      · nomatch hok
      · rw [Except.error.inj hsilent]
        rfl
    · intro e s' hfail
      have hcollect := hrun.symm.trans hfail
      rcases collectFragments_error hsteady (s := { s.advance with transport := t }) ht hcollect
        with rfl | rfl
      · rfl
      · exact absurd ⟨n, t, hsend, collectFragments_refused_iff.mp ⟨s', hcollect⟩⟩ hnot
    · obtain ⟨t', hfinal⟩ := final_queryForDevice hin susyId serial kind
      rw [hfinal]
      exact hin
    · obtain ⟨t', hfinal⟩ := final_queryEventLogForDevice hin susyId serial startUnix endUnix
      rw [hfinal]
      exact hin

/-- A logged-in session whose peer sends these frames and then falls silent. -/
def talkingSession (inbox : List (List UInt8)) : Session SilentPeer :=
  { silentSession inbox with state := .loggedIn, pcktid := 0 }

/-- A peer that says nothing at all. -/
theorem failures_per_device_iff_silence :
    PerDevice (talkingSession []) 125 7 .spotAcTotalPower 0 86400 ↔
      ¬ RefusesEventLog (talkingSession []) 125 7 0 86400 :=
  failures_per_device_iff SilentPeer.steady trivial rfl 125 7 .spotAcTotalPower 0 86400

/-- A first fragment that says "not available". -/
def refusal : List UInt8 :=
  l2Wire (.fill 1) (encodeL2 { L2Header.query 1 7 125 900000000 with errorCode := 0x15 } [])

theorem refusesEventLog_refusal : RefusesEventLog (talkingSession [refusal]) 125 7 0 86400 := by
  have hmatch : pktIdMatch 1 refusal = some (refusal, replyOf
      { L2Header.query 1 7 125 900000000 with errorCode := 0x15, pktId := wirePktId 1 } []) :=
    pktIdMatch_eq_some.mpr ⟨rfl, _, [], l2Of_l2Wire _ _ (by decide), by decide, rfl⟩
  refine ⟨_, ⟨[refusal]⟩, rfl, [], refusal, _, ⟨[]⟩, .cons rfl (.nil _),
    shortGaps_of_none (Nat.succ_pos 15), Nat.succ_pos 31, fun f hf => ?_, hmatch, ?_⟩
  · nomatch hf
  · exact (by decide : (0x15 : UInt16) ≠ 0)

/-- A device that refuses the event log: the error tears the session down. -/
theorem event_log_refusal_is_fatal :
    Steady (fun _ : SilentPeer => True) ∧ (talkingSession [refusal]).state = .loggedIn ∧
      (∃ s', (queryEventLogForDevice 125 7 0 86400).run (talkingSession [refusal])
        = .error (.protocol "event-log-retcode") s') ∧
      (SessionError.protocol "event-log-retcode").isSessionFatal = true ∧
      ¬ PerDevice (talkingSession [refusal]) 125 7 .spotAcTotalPower 0 86400 := by
  obtain ⟨n, t, hsend, hrefused⟩ := refusesEventLog_refusal
  obtain ⟨s', hfail⟩ := (@collectFragments_refused_iff _ _ _ _ []
    { (talkingSession [refusal]).advance with transport := t }).mpr hrefused
  have hrun := (run_queryEventLogForDevice (s := talkingSession [refusal]) rfl 125 7 0 86400
    hsend).trans hfail
  refine ⟨SilentPeer.steady, rfl, ⟨s', hrun⟩, rfl, ?_⟩
  rintro ⟨-, hevents, -, -⟩
  exact nomatch hevents _ s' hrun

/-! ## The end marker -/

/-- The fragment id in the L2 header of a frame, two bytes that the decoder passes over. -/
def fragmentIdOf (raw : List UInt8) : Option UInt16 :=
  match Frame.parse raw with
  | .error _ => none
  | .ok frame =>
    if frame.kind ≠ .l2Wrapped then none else some (readU16 (slice frame.payload 24 26))

/-- The inverter answers an event-log query with the fragments `more` and then `last`, each a frame
    next to its body: they come one after the other, carry the query's packet id and no error, and
    only the last one is marked as the end. -/
structure MarkedReply (s : Session T) (susyId : UInt16) (serial startUnix endUnix : UInt32)
    (more : List (List UInt8 × List UInt8)) (last : List UInt8 × List UInt8) : Prop where
  delivers : ∃ n t t',
    Transport.sendFrame s.transport (s.eventLogWire susyId serial startUnix endUnix) = (.ok n, t) ∧
      Delivers s.frames t ((more ++ [last]).map Prod.fst) t'
  replies : ∀ f ∈ more ++ [last], ReplyTo (s.eventLogWire susyId serial startUnix endUnix) f.1 f.2
  count : (more ++ [last]).length ≤ 32
  marked : fragmentIdOf last.1 = some 0
  unmarked : ∀ f ∈ more, fragmentIdOf f.1 ≠ some 0

/-- The query returns all these bodies, having received these frames and no other. -/
def EndsAtMarker (s : Session (Recorder T)) (susyId : UInt16) (serial startUnix endUnix : UInt32)
    (frags : List (List UInt8 × List UInt8)) : Prop :=
  ∃ s' result, (queryEventLogForDevice susyId serial startUnix endUnix).run s
      = .ok (frags.map Prod.snd).flatten s' ∧
    eventsSince s s' = .sent (s.eventLogWire susyId serial startUnix endUnix) result ::
      frags.map fun f => .received (.ok f.1)

/-- A collecting that goes on receives something more. -/
theorem collectFragments_receives {pktId : UInt16} {n : Nat} {aggregated out : List UInt8}
    {s s' : Session (Recorder T)} (h : (collectFragments pktId n aggregated).run s = .ok out s') :
    s.transport.log.length + min n 1 ≤ s'.transport.log.length := by
  induction n generalizing s aggregated with
  | zero =>
    obtain ⟨-, rfl⟩ := EStateM.Result.ok.inj h
    exact Nat.le_refl _
  | succ n ih =>
    rw [collectFragments] at h
    obtain ⟨⟨raw, reply⟩, s₁, hrecv, hrest⟩ := bind_eq_ok.mp h
    obtain ⟨others, t, -, hdel, -, -, rfl⟩ := recvL2WithPktId_eq_ok_iff.mp hrecv
    have hlog := congrArg List.length (Recorder.delivers_log hdel)
    simp only [List.length_append, List.length_map, List.length_singleton] at hlog
    simp only at hrest
    split at hrest
    · cases hrest
    · split at hrest
      · obtain ⟨-, rfl⟩ := EStateM.Result.ok.inj hrest
        show _ ≤ t.log.length
        omega
      · split at hrest
        · obtain ⟨-, rfl⟩ := EStateM.Result.ok.inj hrest
          show _ ≤ t.log.length
          omega
        · have hlater := ih hrest
          show _ ≤ s'.transport.log.length
          have hmid : ({ s with transport := t } : Session (Recorder T)).transport.log.length
              = t.log.length := rfl
          omega

/-- Fragments with records and then one without: the query ends there, with all of them. -/
theorem ends_without_records {s : Session (Recorder T)} (hin : s.state = .loggedIn)
    {susyId : UInt16} {serial startUnix endUnix : UInt32} {n : Nat} {t t' : Recorder T}
    (hsend : Transport.sendFrame s.transport (s.eventLogWire susyId serial startUnix endUnix)
      = (.ok n, t))
    {more : List (List UInt8 × List UInt8)} {last : List UInt8 × List UInt8}
    (hdel : Delivers s.frames t ((more ++ [last]).map Prod.fst) t')
    (hmore : ∀ f ∈ more, FragmentOf (succPktId s.pcktid) f.1 f.2 ∧ 12 < f.2.length)
    (hlast : FragmentOf (succPktId s.pcktid) last.1 last.2) (hshort : last.2.length ≤ 12)
    (hcount : more.length < 32) :
    (queryEventLogForDevice susyId serial startUnix endUnix).run s
        = .ok ((more ++ [last]).map Prod.snd).flatten { s.advance with transport := t' } ∧
      eventsSince s { s.advance with transport := t' }
        = .sent (s.eventLogWire susyId serial startUnix endUnix) (.ok n) ::
          (more ++ [last]).map fun f => .received (.ok f.1) := by
  have hevents := eventsSince_sent hsend hdel
  rw [List.map_map] at hevents
  rw [List.map_append, List.map_singleton] at hdel
  refine ⟨?_, hevents⟩
  rw [run_queryEventLogForDevice hin susyId serial startUnix endUnix hsend,
    run_collectFragments (s := { s.advance with transport := t }) hcount hmore hlast hshort hdel,
    List.nil_append, List.map_append, List.flatten_append, List.map_singleton, List.flatten_singleton]

/-- Fragments that all have records: only the limit of 32 can end the query behind them. -/
theorem endsAtMarker_of_records_iff {s : Session (Recorder T)} (hin : s.state = .loggedIn)
    {susyId : UInt16} {serial startUnix endUnix : UInt32} {n : Nat} {t t' : Recorder T}
    (hsend : Transport.sendFrame s.transport (s.eventLogWire susyId serial startUnix endUnix)
      = (.ok n, t))
    {frags : List (List UInt8 × List UInt8)} (hdel : Delivers s.frames t (frags.map Prod.fst) t')
    (hfrags : ∀ f ∈ frags, FragmentOf (succPktId s.pcktid) f.1 f.2 ∧ 12 < f.2.length)
    (hcount : frags.length ≤ 32) :
    EndsAtMarker s susyId serial startUnix endUnix frags ↔ frags.length = 32 := by
  have hrun := run_queryEventLogForDevice hin susyId serial startUnix endUnix hsend
  have hevents := eventsSince_sent hsend hdel
  obtain ⟨k, hk⟩ := Nat.exists_eq_add_of_le hcount
  rw [hk, run_collectFragments_records (s := { s.advance with transport := t }) hfrags hdel,
    List.nil_append] at hrun
  cases k with
  | zero =>
    rw [List.map_map] at hevents
    exact iff_of_true ⟨_, .ok n, hrun, hevents⟩ hk.symm
  | succ k =>
    -- the query goes on to receive, so there is one event more
    refine iff_of_false ?_ (by omega)
    rintro ⟨s', result, hok, hevents'⟩
    have hmore := collectFragments_receives (hrun.symm.trans hok)
    have hbefore := congrArg List.length hevents
    have hafter := congrArg List.length hevents'
    simp only [eventsSince, List.length_drop, List.length_cons, List.length_map] at hbefore hafter
    simp only at hmore
    omega

/-- A fragment without records ends the query, so it does not end at the marker if there are others
    behind. -/
theorem not_endsAtMarker_of_short {s : Session (Recorder T)} (hin : s.state = .loggedIn)
    {susyId : UInt16} {serial startUnix endUnix : UInt32} {n : Nat} {t t' : Recorder T}
    (hsend : Transport.sendFrame s.transport (s.eventLogWire susyId serial startUnix endUnix)
      = (.ok n, t))
    {pre rest : List (List UInt8 × List UInt8)} {f last : List UInt8 × List UInt8}
    (hdel : Delivers s.frames t ((pre ++ f :: rest ++ [last]).map Prod.fst) t')
    (hpre : ∀ g ∈ pre, FragmentOf (succPktId s.pcktid) g.1 g.2 ∧ 12 < g.2.length)
    (hf : FragmentOf (succPktId s.pcktid) f.1 f.2) (hshort : f.2.length ≤ 12)
    (hcount : pre.length < 32) :
    ¬ EndsAtMarker s susyId serial startUnix endUnix (pre ++ f :: rest ++ [last]) := by
  have hcut : (pre ++ f :: rest ++ [last]).map Prod.fst
      = (pre ++ [f]).map Prod.fst ++ (rest ++ [last]).map Prod.fst := by simp
  rw [hcut] at hdel
  obtain ⟨t₁, hdel₁, -⟩ := hdel.split
  obtain ⟨hok, hevents⟩ := ends_without_records hin hsend hdel₁ hpre hf hshort hcount
  rintro ⟨s', result, hok', hevents'⟩
  obtain ⟨-, rfl⟩ := EStateM.Result.ok.inj (hok.symm.trans hok')
  have hlen := congrArg List.length (hevents.symm.trans hevents')
  simp only [List.length_cons, List.length_map, List.length_append, List.length_nil] at hlen
  omega

/-- **When an event-log query ends at the marker.**  The packet id has to fit 15 bits; all fragments
    before the last one have records; and the last one has none, or it is the 32nd. -/
theorem event_log_ends_at_marker_iff {s : Session (Recorder T)} (hin : s.state = .loggedIn)
    {susyId : UInt16} {serial startUnix endUnix : UInt32} {more : List (List UInt8 × List UInt8)}
    {last : List UInt8 × List UInt8}
    (hreply : MarkedReply s susyId serial startUnix endUnix more last) :
    EndsAtMarker s susyId serial startUnix endUnix (more ++ [last]) ↔
      (succPktId s.pcktid).toNat < 32768 ∧ (∀ f ∈ more, 12 < f.2.length) ∧
        (last.2.length ≤ 12 ∨ (more ++ [last]).length = 32) := by
  obtain ⟨⟨n, t, t', hsend, hdel⟩, hreplies, hcount, -, -⟩ := hreply
  have hfield := l2FieldOf_eventLogWire s susyId serial startUnix endUnix
  have hmore : more.length < 32 := by
    rw [List.length_append, List.length_singleton] at hcount
    omega
  rcases Nat.lt_or_ge (succPktId s.pcktid).toNat 32768 with hid | hid
  · have hfrags : ∀ f ∈ more ++ [last], FragmentOf (succPktId s.pcktid) f.1 f.2 :=
      fun f hf => fragmentOf_of_replyTo hid hfield (hreplies f hf)
    have hfirst : ∀ f ∈ more, FragmentOf (succPktId s.pcktid) f.1 f.2 :=
      fun f hf => hfrags f (List.mem_append_left _ hf)
    have hfinal := hfrags last (List.mem_append_right _ (List.mem_singleton.mpr rfl))
    rw [and_iff_right hid]
    by_cases hrecords : ∀ f ∈ more, 12 < f.2.length
    · rw [and_iff_right hrecords]
      rcases Nat.lt_or_ge 12 last.2.length with hlong | hshort
      · rw [or_iff_right (Nat.not_le.mpr hlong)]
        refine endsAtMarker_of_records_iff hin hsend hdel ?_ hcount
        intro f hf
        refine ⟨hfrags f hf, ?_⟩
        rcases List.mem_append.mp hf with hf | hf
        · exact hrecords f hf
        · rw [List.mem_singleton.mp hf]
          exact hlong
      · refine iff_of_true ?_ (.inl hshort)
        obtain ⟨hok, hevents⟩ := ends_without_records hin hsend hdel
          (fun f hf => ⟨hfirst f hf, hrecords f hf⟩) hfinal hshort hmore
        exact ⟨_, _, hok, hevents⟩
    · refine iff_of_false ?_ fun h => hrecords h.1
      -- the first fragment without records
      obtain ⟨f, hfind⟩ : ∃ f, more.find? (fun f => f.2.length ≤ 12) = some f := by
        rw [← Option.isSome_iff_exists, List.find?_isSome]
        push Not at hrecords
        obtain ⟨f, hf, hshort⟩ := hrecords
        exact ⟨f, hf, decide_eq_true hshort⟩
      obtain ⟨hshort, pre, rest, rfl, hpre⟩ := List.find?_eq_some_iff_append.mp hfind
      rw [List.length_append] at hmore
      exact not_endsAtMarker_of_short hin hsend hdel
        (fun g hg => ⟨hfirst g (List.mem_append_left _ hg), by simpa using hpre g hg⟩)
        (hfirst f (List.mem_append_right _ List.mem_cons_self)) (of_decide_eq_true hshort) (by omega)
  · have hrun := run_queryEventLogForDevice hin susyId serial startUnix endUnix hsend
    constructor
    · rintro ⟨s', result, hok, -⟩
      refine absurd ?_ (collectFragments_not_ok_of_large hid 31 []
        ((more ++ [last]).map Prod.snd).flatten { s.advance with transport := t })
      rw [← hrun, hok]
      rfl
    · rintro ⟨hlow, -, -⟩
      omega

/-- The same session with a log. -/
def listeningSession (inbox : List (List UInt8)) : Session (Recorder SilentPeer) :=
  { talkingSession inbox with transport := ⟨⟨inbox⟩, []⟩ }

/-- A reply of one fragment, marked as the last, from a peer that says nothing else. -/
theorem markedReply_mockReply {body : List UInt8} (hlen : body.length ≤ 32000) :
    MarkedReply (listeningSession [mockReply 7 1 body]) 125 7 0 86400 [] (mockReply 7 1 body, body) where
  delivers := ⟨_, _, _, rfl, .cons rfl (.nil _)⟩
  replies := by
    intro f hf
    obtain rfl := List.mem_singleton.mp hf
    refine ⟨?_, _, l2Of_mockReply 7 1 hlen, rfl⟩
    rw [l2FieldOf_eventLogWire]
    exact congrArg _ (l2FieldOf_l2Wire (.fill 1) (.query 1 7 125 900000000) hlen)
  count := by
    rw [List.nil_append, List.length_singleton]
    exact Nat.succ_pos 31
  marked := by
    rw [fragmentIdOf, mockReply, parse_l2Wire _ _ hlen]
    rfl
  unmarked := fun f hf => nomatch hf

/-- An inverter without events: the one fragment is a bare echo, and the query ends there. -/
theorem event_log_ends_at_marker_iff_no_events :
    EndsAtMarker (listeningSession [mockReply 7 1 (List.replicate 12 0)]) 125 7 0 86400
        ([] ++ [(mockReply 7 1 (List.replicate 12 0), List.replicate 12 0)]) ↔
      (succPktId 0).toNat < 32768 ∧
        (∀ f ∈ ([] : List (List UInt8 × List UInt8)), 12 < f.2.length) ∧
        ((List.replicate 12 (0 : UInt8)).length ≤ 12 ∨
          ([] ++ [(mockReply 7 1 (List.replicate 12 0), List.replicate 12 (0 : UInt8))]).length = 32) :=
  event_log_ends_at_marker_iff rfl (markedReply_mockReply (by decide))

theorem fragmentOf_mockReply {body : List UInt8} (hlen : body.length ≤ 32000) :
    FragmentOf (succPktId 0) (mockReply 7 1 body) body :=
  ⟨replyOf (.query (wirePktId 1) 7 125 900000000) body,
    pktIdMatch_eq_some.mpr ⟨rfl, _, body, l2Of_mockReply 7 1 hlen, by decide, rfl⟩, rfl, rfl⟩

/-- Behind a fragment with records the query goes on, and nothing comes. -/
theorem silent_behind_fragment {raw body : List UInt8} (hfrag : FragmentOf (succPktId 0) raw body)
    (hbody : 12 < body.length) :
    value ((queryEventLogForDevice 125 7 0 86400).run (listeningSession [raw]))
      = .error (.silent "event-log") := by
  let wire := (listeningSession [raw]).eventLogWire 125 7 0 86400
  let sent : Recorder SilentPeer := ⟨⟨[raw]⟩, [.sent wire (.ok wire.length)]⟩
  let received : Recorder SilentPeer :=
    ⟨⟨[]⟩, [.sent wire (.ok wire.length), .received (.ok raw)]⟩
  have hsend : Transport.sendFrame (listeningSession [raw]).transport wire
      = (.ok wire.length, sent) := rfl
  have hnext : (listeningSession [raw]).frames sent = (.ok raw, received) := rfl
  have hmore := run_collectFragments_more
    (s := { (listeningSession [raw]).advance with transport := sent }) hnext hfrag hbody 31 []
  rw [run_queryEventLogForDevice rfl 125 7 0 86400 hsend]
  exact (congrArg value hmore).trans rfl

/-- One event in one fragment, marked as the last: the query waits for another one, and its silence
    is all that comes back. -/
theorem event_log_waits_behind_marker :
    MarkedReply (listeningSession [mockReply 7 1 (List.replicate 36 1)]) 125 7 0 86400 []
        (mockReply 7 1 (List.replicate 36 1), List.replicate 36 1) ∧
      value ((queryEventLogForDevice 125 7 0 86400).run
        (listeningSession [mockReply 7 1 (List.replicate 36 1)])) = .error (.silent "event-log") ∧
      ¬ EndsAtMarker (listeningSession [mockReply 7 1 (List.replicate 36 1)]) 125 7 0 86400
        ([] ++ [(mockReply 7 1 (List.replicate 36 1), List.replicate 36 1)]) := by
  have hmarked := @markedReply_mockReply (List.replicate 36 1) (by decide)
  refine ⟨hmarked, ?_, ?_⟩
  · exact silent_behind_fragment (fragmentOf_mockReply (by decide)) (by decide)
  · rw [event_log_ends_at_marker_iff rfl hmarked]
    rintro ⟨-, -, hshort | hmany⟩
    · exact absurd hshort (by decide)
    · nomatch hmany

end Session

end HassSma
