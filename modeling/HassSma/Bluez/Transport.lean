/-
  Transports (`bluez-transport/src/lib.rs`, `mock.rs`).

  A transport sends one frame, receives one frame, closes.  Each operation answers with a result and
  the transport's next state, so a transport's type is free to hold any behaviour: scripted replies
  (`MockTransport`), a socket (`RfcommTransport`, in its own module), or anything a peer may do.

  `Recorder T` is `T` with a log of what passed through it.  It answers as `T` does, so a statement
  about the log of a session over `Recorder T` is a statement about what a session over `T` sent
  and received.
-/
import HassSma.Lib.Polling

namespace HassSma

inductive TransportError where
  | io (errno : Nat)
  | closed
  | timeout (timeoutMs : UInt64)
  | mockExhausted
  deriving DecidableEq, Repr

class Transport (T : Type) where
  /-- Send one frame; the number of bytes sent. -/
  sendFrame : T → List UInt8 → Except TransportError Nat × T
  /-- Receive the next complete frame. -/
  recvFrame : T → UInt64 → Except TransportError (List UInt8) × T
  close : T → Except TransportError Unit × T

/-- In the states `P` sends succeed and a receive gives a frame or a timeout, and so it stays. -/
structure Steady {T : Type} [Transport T] (P : T → Prop) : Prop where
  sends : ∀ {t}, P t → ∀ data, ∃ n t', Transport.sendFrame t data = (.ok n, t') ∧ P t'
  receives : ∀ {t}, P t → ∀ timeoutMs, P (Transport.recvFrame t timeoutMs).2 ∧
    ∀ e, (Transport.recvFrame t timeoutMs).1 = .error e → ∃ ms, e = .timeout ms

/-! ## The mock -/

structure MockTransport where
  replies : List (List UInt8)
  sent : List (List UInt8)
  isClosed : Bool
  deriving DecidableEq, Repr

namespace MockTransport

def new : MockTransport := ⟨[], [], false⟩

def queueReplies (t : MockTransport) (frames : List (List UInt8)) : MockTransport :=
  { t with replies := t.replies ++ frames }

instance : Transport MockTransport where
  sendFrame t data :=
    if t.isClosed then (.error .closed, t)
    else (.ok data.length, { t with sent := t.sent ++ [data] })
  recvFrame t _ :=
    if t.isClosed then (.error .closed, t)
    else
      match t.replies with
      | [] => (.error .mockExhausted, t)
      | frame :: rest => (.ok frame, { t with replies := rest })
  close t := (.ok (), { t with isClosed := true })

theorem delivers (timeoutMs : UInt64) (frames rest sent : List (List UInt8)) :
    Polling.Delivers (Transport.recvFrame · timeoutMs) (⟨frames ++ rest, sent, false⟩ : MockTransport)
      frames ⟨rest, sent, false⟩ :=
  @Polling.delivers_queue _ _ _ (Transport.recvFrame · timeoutMs)
    (fun frames : List (List UInt8) => (⟨frames, sent, false⟩ : MockTransport))
    (fun _ _ => rfl) frames rest

end MockTransport

/-! ## A peer that falls silent -/

/-- A peer that sends what it has and then nothing: every further receive times out. -/
structure SilentPeer where
  inbox : List (List UInt8)

namespace SilentPeer

instance : Transport SilentPeer where
  sendFrame t data := (.ok data.length, t)
  recvFrame t timeoutMs :=
    match t.inbox with
    | [] => (.error (.timeout timeoutMs), t)
    | frame :: rest => (.ok frame, ⟨rest⟩)
  close t := (.ok (), t)

theorem delivers (timeoutMs : UInt64) (frames rest : List (List UInt8)) :
    Polling.Delivers (Transport.recvFrame · timeoutMs) (⟨frames ++ rest⟩ : SilentPeer) frames
      ⟨rest⟩ :=
  @Polling.delivers_queue _ _ _ (Transport.recvFrame · timeoutMs) SilentPeer.mk
    (fun _ _ => rfl) frames rest

theorem steady : Steady fun _ : SilentPeer => True where
  sends _ data := ⟨data.length, _, rfl, trivial⟩
  receives {t} _ timeoutMs := by
    refine ⟨trivial, fun e he => ?_⟩
    obtain ⟨inbox⟩ := t
    cases inbox with
    | nil => exact ⟨timeoutMs, (Except.error.inj he).symm⟩
    | cons frame rest => nomatch he

end SilentPeer

/-! ## A transcript -/

/-- A transport that plays a transcript: what each receive gives and what each send gives, in order.
    Behind the end every receive times out and every send succeeds. -/
structure Scripted where
  inbox : List (Except TransportError (List UInt8))
  outcomes : List (Except TransportError Nat)
  sent : List (List UInt8)

namespace Scripted

instance : Transport Scripted where
  sendFrame t data :=
    match t.outcomes with
    | [] => (.ok data.length, { t with sent := t.sent ++ [data] })
    | result :: rest => (result, { t with outcomes := rest, sent := t.sent ++ [data] })
  recvFrame t timeoutMs :=
    match t.inbox with
    | [] => (.error (.timeout timeoutMs), t)
    | result :: rest => (result, { t with inbox := rest })
  close t := (.ok (), t)

/-- The same transport with other receives to come. -/
def withInbox (t : Scripted) (inbox : List (Except TransportError (List UInt8))) : Scripted :=
  { t with inbox := inbox }

@[simp] theorem withInbox_withInbox (t : Scripted) (i j : List (Except TransportError (List UInt8))) :
    (t.withInbox i).withInbox j = t.withInbox j := rfl

/-- A send does not depend on what is to be received, and leaves it alone. -/
theorem sendFrame_withInbox {t t' : Scripted} {data : List UInt8} {result : Except TransportError Nat}
    (h : Transport.sendFrame t data = (result, t'))
    (inbox : List (Except TransportError (List UInt8))) :
    Transport.sendFrame (t.withInbox inbox) data = (result, t'.withInbox inbox) ∧
      t'.inbox = t.inbox := by
  obtain ⟨i, outcomes, sent⟩ := t
  cases outcomes with
  | nil =>
    obtain ⟨rfl, rfl⟩ := Prod.mk.inj h
    exact ⟨rfl, rfl⟩
  | cons r rest =>
    obtain ⟨rfl, rfl⟩ := Prod.mk.inj h
    exact ⟨rfl, rfl⟩

/-- Frames in front of the inbox are delivered. -/
theorem delivers (timeoutMs : UInt64) (t : Scripted) (frames : List (List UInt8))
    (rest : List (Except TransportError (List UInt8))) :
    Polling.Delivers (Transport.recvFrame · timeoutMs) (t.withInbox (frames.map .ok ++ rest)) frames
      (t.withInbox rest) := by
  induction frames with
  | nil => exact .nil _
  | cons frame frames ih => exact .cons rfl ih

/-- What is delivered stood in front of the inbox. -/
theorem inbox_of_delivers {timeoutMs : UInt64} {t t' : Scripted} {frames : List (List UInt8)}
    (h : Polling.Delivers (Transport.recvFrame · timeoutMs) t frames t') :
    t.inbox = frames.map .ok ++ t'.inbox ∧ t' = t.withInbox t'.inbox := by
  induction h with
  | nil t => exact ⟨rfl, rfl⟩
  | @cons t t₁ t₂ frame frames hnext _ ih =>
    obtain ⟨inbox, outcomes, sent⟩ := t
    cases inbox with
    | nil => nomatch hnext
    | cons r rest =>
      obtain ⟨rfl, rfl⟩ := Prod.mk.inj hnext
      exact ⟨congrArg (.ok frame :: ·) ih.1, ih.2⟩

/-- Where frames are delivered, others could have been: the transport only remembers what is left. -/
theorem delivers_instead {timeoutMs : UInt64} {t t' : Scripted} {frames : List (List UInt8)}
    (h : Polling.Delivers (Transport.recvFrame · timeoutMs) t frames t') (frames' : List (List UInt8))
    (rest : List (Except TransportError (List UInt8))) :
    Polling.Delivers (Transport.recvFrame · timeoutMs) (t.withInbox (frames'.map .ok ++ rest)) frames'
      (t'.withInbox rest) := by
  rw [(inbox_of_delivers h).2, withInbox_withInbox]
  exact delivers timeoutMs t frames' rest

end Scripted

/-! ## Recording -/

/-- One operation on a transport: its argument and its result. -/
inductive IoEvent where
  | sent (data : List UInt8) (result : Except TransportError Nat)
  | received (result : Except TransportError (List UInt8))
  | closed (result : Except TransportError Unit)

structure Recorder (T : Type) where
  inner : T
  log : List IoEvent

namespace Recorder

variable {T : Type} [Transport T]

instance : Transport (Recorder T) where
  sendFrame r data :=
    let (result, t) := Transport.sendFrame r.inner data
    (result, ⟨t, r.log ++ [.sent data result]⟩)
  recvFrame r timeoutMs :=
    let (result, t) := Transport.recvFrame r.inner timeoutMs
    (result, ⟨t, r.log ++ [.received result]⟩)
  close r :=
    let (result, t) := Transport.close r.inner
    (result, ⟨t, r.log ++ [.closed result]⟩)

theorem sendFrame_log (r : Recorder T) (data : List UInt8) :
    (Transport.sendFrame r data).2.log = r.log ++ [.sent data (Transport.sendFrame r data).1] := rfl

theorem recvFrame_log (r : Recorder T) (timeoutMs : UInt64) :
    (Transport.recvFrame r timeoutMs).2.log
      = r.log ++ [.received (Transport.recvFrame r timeoutMs).1] := rfl

theorem close_log (r : Recorder T) :
    (Transport.close r).2.log = r.log ++ [.closed (Transport.close r).1] := rfl

theorem log_of_sent {r r' : Recorder T} {data : List UInt8} {n : Nat}
    (h : Transport.sendFrame r data = (.ok n, r')) : r'.log = r.log ++ [.sent data (.ok n)] := by
  have hlog := sendFrame_log r data
  rw [h] at hlog
  exact hlog

theorem log_of_received {r r' : Recorder T} {timeoutMs : UInt64} {raw : List UInt8}
    (h : Transport.recvFrame r timeoutMs = (.ok raw, r')) :
    r'.log = r.log ++ [.received (.ok raw)] := by
  have hlog := recvFrame_log r timeoutMs
  rw [h] at hlog
  exact hlog

/-- Delivered frames are logged as received, in order. -/
theorem delivers_log {timeoutMs : UInt64} {r r' : Recorder T} {frames : List (List UInt8)}
    (h : Polling.Delivers (Transport.recvFrame · timeoutMs) r frames r') :
    r'.log = r.log ++ frames.map fun raw => .received (.ok raw) := by
  induction h with
  | nil r => rw [List.map_nil, List.append_nil]
  | @cons r r₁ r' raw frames hnext _ ih =>
    rw [ih, log_of_received hnext, List.map_cons, List.append_assoc, List.singleton_append]

end Recorder

end HassSma
