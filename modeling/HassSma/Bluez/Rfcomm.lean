/-
  The RFCOMM socket (`bluez-transport/src/rfcomm.rs`).

  `recv_frame` hands over a queued frame if there is one.  Otherwise it reads the clock, and then
  calls `recv(2)` again and again: bytes go into the frame reader until a frame is complete, an
  error of the call ends the loop.  The clock is looked at again only behind bytes that completed
  no frame.

  What the system calls give is part of the state: the results of `recv(2)` and `send(2)` still to come,
  in order, and the clock readings.  The socket has a receive timeout, on whose expiry `recv(2)` fails
  with `EAGAIN`; to the loop this is an error like any other (`recvFrame_frameOrTimeout_iff`).
-/
import HassSma.Bluez.Framer
import HassSma.Bluez.Transport

namespace HassSma

/-! ## The program -/

/-- What `recv(2)` gives: `-1` with an errno, or bytes, none of them at the end of the stream. -/
inductive RecvResult where
  | errno (e : Nat)
  | bytes (data : List UInt8)
  deriving DecidableEq, Repr

/-- The errno of an expired receive timeout. -/
def eagain : Nat := 11

structure RfcommTransport where
  fd : Option Nat
  reader : FrameReader
  /-- The results of `recv(2)` to come.  A call that needs more of them has not returned; the model
      has `mockExhausted` there, which the socket never gives. -/
  recvs : List RecvResult
  /-- The results of `send(2)` to come. -/
  sends : List (Except Nat Nat)
  /-- The readings of the clock, in nanoseconds, and how many have been taken. -/
  clock : Nat → Nat
  readings : Nat

namespace RfcommTransport

/-- The clock, read once more. -/
def now (t : RfcommTransport) : Nat × RfcommTransport :=
  (t.clock t.readings, { t with readings := t.readings + 1 })

def sendFrame (t : RfcommTransport) (_data : List UInt8) :
    Except TransportError Nat × RfcommTransport :=
  match t.fd with
  | none => (.error .closed, t)
  | some _ =>
    match t.sends with
    | [] => (.error .mockExhausted, t)
    | .error e :: rest => (.error (.io e), { t with sends := rest })
    | .ok n :: rest => (.ok n, { t with sends := rest })

/-- The loop of `recv_frame` over the results to come. -/
def recvLoop (timeoutMs : UInt64) (deadline : Option Nat) :
    List RecvResult → RfcommTransport → Except TransportError (List UInt8) × RfcommTransport
  | [], t =>
    match t.fd with
    | none => (.error .closed, t)
    | some _ => (.error .mockExhausted, t)
  | result :: rest, t =>
    match t.fd with
    | none => (.error .closed, t)
    | some _ =>
      match result with
      | .errno e => (.error (.io e), { t with recvs := rest })
      | .bytes chunk =>
        if chunk = [] then (.error .closed, { t with recvs := rest })
        else
          let pushed := (t.reader.push chunk).popFrame
          let t := { t with recvs := rest, reader := pushed.2 }
          match pushed.1 with
          | some f => (.ok f, t)
          | none =>
            match deadline with
            | none => recvLoop timeoutMs deadline rest t
            | some d =>
              if t.now.1 > d then (.error (.timeout timeoutMs), t.now.2)
              else recvLoop timeoutMs deadline rest t.now.2

def recvFrame (t : RfcommTransport) (timeoutMs : UInt64) :
    Except TransportError (List UInt8) × RfcommTransport :=
  let popped := t.reader.popFrame
  match popped.1 with
  | some f => (.ok f, { t with reader := popped.2 })
  | none =>
    if timeoutMs > 0 then
      recvLoop timeoutMs (some (t.now.1 + timeoutMs.toNat * 1000000)) t.recvs t.now.2
    else recvLoop timeoutMs none t.recvs t

def close (t : RfcommTransport) : Except TransportError Unit × RfcommTransport :=
  (.ok (), { t with fd := none })

instance : Transport RfcommTransport where
  sendFrame := sendFrame
  recvFrame := recvFrame
  close := close

/-! ## Frames and timeouts -/

/-- The call gave a frame or timed out. -/
def FrameOrTimeout (result : Except TransportError (List UInt8)) : Prop :=
  (∃ f, result = .ok f) ∨ ∃ timeoutMs, result = .error (.timeout timeoutMs)

/-- The chunks in front of `recvs` are enough for the loop: behind one of them a frame is complete, or
    the clock, read once for each, is past the deadline. -/
def Reached (past : Nat → Prop) (reader : FrameReader) (recvs : List RecvResult) : Prop :=
  ∃ chunk chunks rest, recvs = (chunk :: chunks).map .bytes ++ rest ∧
    (∀ c ∈ chunk :: chunks, c ≠ []) ∧
    ((reader.push (chunk :: chunks).flatten).hasFrame = true ∨ past chunks.length)

/-- The clock, read `i` more times and then once, is past the deadline. -/
def PastDeadline (deadline : Option Nat) (t : RfcommTransport) (i : Nat) : Prop :=
  ∃ d, deadline = some d ∧ d < t.clock (t.readings + i)

/-- A frame is queued; or the socket is open, and before `recv(2)` gives anything but bytes, these
    complete a frame or the clock is past the deadline behind some of them. -/
def InTime (t : RfcommTransport) (timeoutMs : UInt64) : Prop :=
  t.reader.hasFrame = true ∨
    t.fd ≠ none ∧
      if timeoutMs > 0 then
        Reached (PastDeadline (some (t.now.1 + timeoutMs.toNat * 1000000)) t.now.2) t.reader t.recvs
      else Reached (PastDeadline none t) t.reader t.recvs

theorem hasFrame_of_pop {r : FrameReader} {f : List UInt8} (h : r.popFrame.1 = some f) :
    r.hasFrame = true := by
  obtain ⟨inProgress, expectedLen, completed⟩ := r
  cases completed with
  | nil => nomatch h
  | cons g gs => rfl

theorem pop_none {r : FrameReader} (h : r.popFrame.1 = none) :
    r.hasFrame = false ∧ r.popFrame.2 = r := by
  obtain ⟨inProgress, expectedLen, completed⟩ := r
  cases completed with
  | nil => exact ⟨rfl, rfl⟩
  | cons g gs => nomatch h

theorem push_append (r : FrameReader) (a b : List UInt8) : r.push (a ++ b) = (r.push a).push b :=
  List.foldl_append

/-- Nothing is reached at an error or at the end of the stream. -/
theorem not_reached {past : Nat → Prop} {reader : FrameReader} {result : RecvResult}
    {rest : List RecvResult} (h : ∀ c, result = .bytes c → c = []) :
    ¬ Reached past reader (result :: rest) := by
  rintro ⟨chunk, chunks, rest', heq, hne, -⟩
  rw [List.map_cons, List.cons_append] at heq
  exact hne chunk List.mem_cons_self (h chunk (List.cons.inj heq).1)

/-- One chunk: it completes a frame, or the clock is past the deadline, or the rest has to do. -/
theorem reached_cons {past : Nat → Prop} {reader : FrameReader} {chunk : List UInt8}
    {rest : List RecvResult} (hne : chunk ≠ []) :
    Reached past reader (.bytes chunk :: rest) ↔
      (reader.push chunk).hasFrame = true ∨ past 0 ∨
        Reached (fun i => past (i + 1)) (reader.push chunk) rest := by
  constructor
  · rintro ⟨chunk', chunks, rest', heq, hnonempty, hend⟩
    rw [List.map_cons, List.cons_append] at heq
    obtain ⟨hchunk, rfl⟩ := List.cons.inj heq
    obtain rfl := RecvResult.bytes.inj hchunk
    cases chunks with
    | nil =>
      rw [List.flatten_singleton] at hend
      rcases hend with hframe | hpast
      · exact .inl hframe
      · exact .inr (.inl hpast)
    | cons c cs =>
      rw [List.flatten_cons, push_append] at hend
      exact .inr (.inr ⟨c, cs, rest', rfl, (List.forall_mem_cons.mp hnonempty).2, hend⟩)
  · rintro (hframe | hpast | ⟨c, cs, rest', rfl, hnonempty, hend⟩)
    · exact ⟨chunk, [], rest, rfl, by simpa using hne, .inl (by rwa [List.flatten_singleton])⟩
    · exact ⟨chunk, [], rest, rfl, by simpa using hne, .inr hpast⟩
    · refine ⟨chunk, c :: cs, rest', rfl, List.forall_mem_cons.mpr ⟨hne, hnonempty⟩, ?_⟩
      rw [List.flatten_cons, push_append]
      exact hend

/-- Without a deadline, no time is past it. -/
theorem not_pastDeadline_none (t : RfcommTransport) (i : Nat) : ¬ PastDeadline none t i :=
  fun ⟨_, hd, _⟩ => nomatch hd

theorem pastDeadline_none (t t' : RfcommTransport) :
    (fun i => PastDeadline none t (i + 1)) = PastDeadline none t' := by
  funext i
  exact propext (iff_of_false (not_pastDeadline_none t (i + 1)) (not_pastDeadline_none t' i))

theorem pastDeadline_zero (d : Nat) (t : RfcommTransport) :
    PastDeadline (some d) t 0 ↔ t.clock t.readings > d := by
  simp [PastDeadline]

/-- Behind a reading of the clock, the later readings come one sooner. -/
theorem pastDeadline_now (d : Nat) (t : RfcommTransport) :
    (fun i => PastDeadline (some d) t (i + 1)) = PastDeadline (some d) t.now.2 := by
  funext i
  rw [PastDeadline, PastDeadline, Nat.add_comm i 1, ← Nat.add_assoc]
  rfl

/-- **The loop** gives a frame or times out exactly if the chunks to come are enough for it. -/
theorem recvLoop_frameOrTimeout_iff (timeoutMs : UInt64) (deadline : Option Nat)
    (recvs : List RecvResult) {t : RfcommTransport} (hopen : t.fd ≠ none) :
    FrameOrTimeout (recvLoop timeoutMs deadline recvs t).1 ↔
      Reached (PastDeadline deadline t) t.reader recvs := by
  obtain ⟨fd, hfd⟩ := Option.ne_none_iff_exists'.mp hopen
  induction recvs generalizing t with
  | nil =>
    unfold recvLoop
    rw [hfd]
    constructor
    · rintro (⟨f, hf⟩ | ⟨ms, hf⟩) <;> nomatch hf
    · rintro ⟨chunk, chunks, rest, heq, -⟩
      nomatch heq
  | cons result rest ih =>
    unfold recvLoop
    rw [hfd]
    cases result with
    | errno e =>
      refine iff_of_false ?_ (not_reached nofun)
      rintro (⟨f, hf⟩ | ⟨ms, hf⟩) <;> nomatch hf
    | bytes chunk =>
      simp only
      by_cases hne : chunk = []
      · rw [if_pos hne]
        refine iff_of_false ?_ (not_reached fun c hc => by rw [← RecvResult.bytes.inj hc, hne])
        rintro (⟨f, hf⟩ | ⟨ms, hf⟩) <;> nomatch hf
      · rw [if_neg hne, reached_cons hne]
        cases hpop : (t.reader.push chunk).popFrame.1 with
        | some f => exact iff_of_true (.inl ⟨f, rfl⟩) (.inl (hasFrame_of_pop hpop))
        | none =>
          obtain ⟨hframe, hreader⟩ := pop_none hpop
          simp only [hframe, hreader, Bool.false_eq_true, false_or]
          let t' : RfcommTransport :=
            { t with fd := some fd, reader := t.reader.push chunk, recvs := rest }
          cases deadline with
          | none =>
            rw [or_iff_right (not_pastDeadline_none t 0), pastDeadline_none t t']
            exact ih (t := t') nofun rfl
          | some d =>
            show FrameOrTimeout
              (if t.clock t.readings > d then (.error (.timeout timeoutMs), t'.now.2)
                else recvLoop timeoutMs (some d) rest t'.now.2).1 ↔ _
            have hnext : (fun i => PastDeadline (some d) t (i + 1)) = PastDeadline (some d) t'.now.2 :=
              pastDeadline_now d t
            rw [pastDeadline_zero, hnext]
            by_cases hpast : t.clock t.readings > d
            · rw [if_pos hpast]
              exact iff_of_true (.inr ⟨timeoutMs, rfl⟩) (.inl hpast)
            · rw [if_neg hpast, or_iff_right hpast]
              exact ih (t := t'.now.2) nofun rfl

theorem recvLoop_closed (timeoutMs : UInt64) (deadline : Option Nat) (recvs : List RecvResult)
    {t : RfcommTransport} (hclosed : t.fd = none) :
    recvLoop timeoutMs deadline recvs t = (.error .closed, t) := by
  unfold recvLoop
  cases recvs <;> simp only [hclosed]

/-- **When `recv_frame` gives a frame or a timeout**: a frame is queued, or bytes come in that complete
    one, or behind which the deadline has passed, before `recv(2)` gives anything else. -/
theorem recvFrame_frameOrTimeout_iff (t : RfcommTransport) (timeoutMs : UInt64) :
    FrameOrTimeout (Transport.recvFrame t timeoutMs).1 ↔ InTime t timeoutMs := by
  show FrameOrTimeout (recvFrame t timeoutMs).1 ↔ InTime t timeoutMs
  rw [recvFrame, InTime]
  cases hpop : t.reader.popFrame.1 with
  | some f => exact iff_of_true (.inl ⟨f, rfl⟩) (.inl (hasFrame_of_pop hpop))
  | none =>
    obtain ⟨hframe, -⟩ := pop_none hpop
    simp only [hframe, Bool.false_eq_true, false_or]
    by_cases hopen : t.fd = none
    · rw [recvLoop_closed _ _ _ (show t.now.2.fd = none from hopen), recvLoop_closed _ _ _ hopen]
      refine iff_of_false ?_ fun h => h.1 hopen
      split <;> rintro (⟨f, hf⟩ | ⟨ms, hf⟩) <;> nomatch hf
    · rw [and_iff_right hopen]
      by_cases htimeout : timeoutMs > 0
      · rw [if_pos htimeout, if_pos htimeout]
        exact recvLoop_frameOrTimeout_iff timeoutMs _ t.recvs (t := t.now.2) hopen
      · rw [if_neg htimeout, if_neg htimeout]
        exact recvLoop_frameOrTimeout_iff timeoutMs none t.recvs hopen

end RfcommTransport

end HassSma
