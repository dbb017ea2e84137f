/-
  Silent devices (`recv_l2_with_pkt_id` over the RFCOMM socket).

  A device that does not answer is to cost one query, not the session.  The session turns a timeout of
  the transport into silence of the phase, and silence in a query is not fatal; every other error of
  the transport is.  So it all depends on what the socket calls a timeout:
  `silence_survived_iff` says that a query ends in a reply or in silence exactly when each receive it
  makes gets its frame, or bytes past the deadline, before the socket's own timeout expires.
-/
import HassSma.Bluez.Rfcomm
import HassSma.Client.Receive

namespace HassSma

open Bytes Fallible Polling

namespace Session

/-! ## Errors of a receive -/

/-- Only a timeout becomes silence. -/
theorem recvError_eq_silent {phase : String} {e : TransportError} :
    recvError phase e = .silent phase ↔ ∃ timeoutMs, e = .timeout timeoutMs := by
  cases e with
  | timeout timeoutMs => exact iff_of_true rfl ⟨timeoutMs, rfl⟩
  | io errno => exact iff_of_false nofun nofun
  | closed => exact iff_of_false nofun nofun
  | mockExhausted => exact iff_of_false nofun nofun

/-- The query gave a reply, or nobody answered it. -/
def OkOrSilent (result : Except SessionError (List UInt8)) : Prop :=
  (∃ body, result = .ok body) ∨ result = .error (.silent "query")

section Transport

variable {T : Type} [Transport T]

/-- **Replies and silence**: a query that went out ends in one of them exactly if none of its receives
    fails with anything but a timeout. -/
theorem okOrSilent_iff {s : Session T} (h : s.state = .loggedIn) {susyId : UInt16} {serial : UInt32}
    {kind : QueryKind} {n : Nat} {t : T}
    (hsend : Transport.sendFrame s.transport (s.queryWire susyId serial kind) = (.ok n, t)) :
    OkOrSilent (value ((queryForDevice susyId serial kind).run s)) ↔
      ∀ others t', others.length < 16 → Delivers s.frames t others t' →
        (∀ o ∈ others, pktIdMatch (succPktId s.pcktid) o = none) →
        ∀ e, (s.frames t').1 = .error e → ∃ timeoutMs, e = .timeout timeoutMs := by
  rw [run_queryForDevice h, hsend]
  simp only
  constructor
  · intro hquery others t' hfew hdel hskip e he
    have hpoll := poll_eq_error_iff.mpr ⟨others, t', hfew, hdel, hskip, Prod.ext he rfl⟩
    rw [hpoll] at hquery
    rcases hquery with ⟨body, hok⟩ | hsilent
    · nomatch hok
    · exact recvError_eq_silent.mp (Except.error.inj hsilent)
  · intro hcalls
    rcases hpoll : poll s.frames (pktIdMatch (succPktId s.pcktid)) 16 t
      with ⟨(_ | e) | ⟨raw, reply⟩, t'⟩
    · exact .inr rfl
    · obtain ⟨others, t₁, hfew, hdel, hskip, herr⟩ := poll_eq_error_iff.mp hpoll
      refine .inr (congrArg Except.error (recvError_eq_silent.mpr ?_))
      exact hcalls others t₁ hfew hdel hskip e (congrArg Prod.fst herr)
    · exact .inl ⟨reply.body, rfl⟩

end Transport

/-! ## Over the socket -/

open RfcommTransport in
/-- **When silence is survived.**  `recv_frame` gives a frame or a timeout exactly if a frame is queued,
    or bytes come in that complete one or behind which the deadline has passed, before anything else
    comes from `recv(2)`.  A query whose frame went out ends in a reply or in silence exactly if that
    holds of each receive it makes, and silence in a query is not fatal. -/
theorem silence_survived_iff {s : Session RfcommTransport} (h : s.state = .loggedIn)
    {susyId : UInt16} {serial : UInt32} {kind : QueryKind} {n : Nat} {t : RfcommTransport}
    (hsend : Transport.sendFrame s.transport (s.queryWire susyId serial kind) = (.ok n, t)) :
    (∀ (r : RfcommTransport) (timeoutMs : UInt64),
        FrameOrTimeout (Transport.recvFrame r timeoutMs).1 ↔ InTime r timeoutMs) ∧
      (OkOrSilent (value ((queryForDevice susyId serial kind).run s)) ↔
        ∀ others t', others.length < 16 → Delivers s.frames t others t' →
          (∀ o ∈ others, pktIdMatch (succPktId s.pcktid) o = none) → InTime t' s.cfg.timeoutMs) ∧
      (SessionError.silent "query").isSessionFatal = false := by
  refine ⟨recvFrame_frameOrTimeout_iff, ?_, by decide⟩
  rw [okOrSilent_iff h hsend]
  have hcall : ∀ t' : RfcommTransport,
      (∀ e, (s.frames t').1 = .error e → ∃ timeoutMs, e = .timeout timeoutMs) ↔
        InTime t' s.cfg.timeoutMs := by
    intro t'
    rw [← recvFrame_frameOrTimeout_iff, FrameOrTimeout, frames]
    cases (Transport.recvFrame t' s.cfg.timeoutMs).1 with
    | ok f => simp
    | error e => simp
  simp only [hcall]

/-! ## Examples -/

/-- An open socket with these results of `recv(2)` to come, and a clock that goes ten seconds a
    reading. -/
def socket (recvs : List RecvResult) (sends : List (Except Nat Nat)) : RfcommTransport :=
  { fd := some 3
    reader := .new
    recvs := recvs
    sends := sends
    clock := fun i => i * 10000000000
    readings := 0 }

/-- A logged-in session over that socket, with a timeout of fifteen seconds. -/
def socketSession (recvs : List RecvResult) : Session RfcommTransport :=
  { transport := socket recvs [.ok 60]
    cfg := ⟨.fill 0, .fill 0, "", .user, 15000⟩
    state := .loggedIn
    appSerial := 900000000
    pcktid := 0
    inverterSusyId := 0
    inverterSerial := 0 }

open RfcommTransport in
/-- A peer that sends garbage until the deadline has passed: the query ends in silence. -/
theorem silence_survived_iff_garbage :
    (∀ (r : RfcommTransport) (timeoutMs : UInt64),
        FrameOrTimeout (Transport.recvFrame r timeoutMs).1 ↔ InTime r timeoutMs) ∧
      (OkOrSilent (value ((queryForDevice 125 7 .spotAcTotalPower).run
          (socketSession [.bytes [0], .bytes [0], .errno eagain]))) ↔
        ∀ others t', others.length < 16 →
          Delivers (socketSession [.bytes [0], .bytes [0], .errno eagain]).frames
            (socket [.bytes [0], .bytes [0], .errno eagain] []) others t' →
          (∀ o ∈ others, pktIdMatch (succPktId 0) o = none) → InTime t' 15000) ∧
      (SessionError.silent "query").isSessionFatal = false :=
  @silence_survived_iff (socketSession [.bytes [0], .bytes [0], .errno eagain]) rfl 125 7
    .spotAcTotalPower 60 (socket [.bytes [0], .bytes [0], .errno eagain] []) rfl

open RfcommTransport in
/-- A device that says nothing at all: the socket's timeout expires first, `recv_frame` reports an I/O
    error, and the query fails with an error that tears the session down. -/
theorem silent_device_is_fatal :
    (∀ r ∈ [RecvResult.errno eagain], (∃ c, c ≠ [] ∧ r = .bytes c) ∨ r = .errno eagain) ∧
      ¬ FrameOrTimeout (Transport.recvFrame (socket [.errno eagain] []) 15000).1 ∧
      ¬ OkOrSilent (value ((queryForDevice 125 7 .spotAcTotalPower).run
        (socketSession [.errno eagain]))) ∧
      ∃ e, value ((queryForDevice 125 7 .spotAcTotalPower).run (socketSession [.errno eagain]))
        = .error e ∧ e.isSessionFatal = true := by
  have hrecv : (Transport.recvFrame (socket [.errno eagain] []) 15000).1 = .error (.io eagain) := rfl
  have hquery : value ((queryForDevice 125 7 .spotAcTotalPower).run (socketSession [.errno eagain]))
      = .error (.transport (.io eagain)) := by
    rw [run_queryForDevice rfl]
    rfl
  refine ⟨by simp, ?_, ?_, .transport (.io eagain), hquery, rfl⟩
  · rw [hrecv]
    rintro (⟨f, hf⟩ | ⟨ms, hf⟩) <;> nomatch hf
  · rw [hquery]
    rintro (⟨body, hok⟩ | hsilent)
    · nomatch hok
    · nomatch hsilent

end Session

end HassSma
