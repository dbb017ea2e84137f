/-
  The socket, up to the cutting of its stream (`bluez-transport/src/rfcomm.rs`).

  `recv(2)` hands over the stream in chunks, and where it cuts is up to the kernel and the radio.

  1. **What is to come (`coming`)** — the frames and errors that receives will give, as a function of
     the reader and the results of `recv(2)`.  A receive takes the first of them, or times out and
     leaves them (`recvFrame_coming`).

  2. **Cutting (`Recut`)** — chunks are cut in two or joined with their neighbours.  What is to come
     does not change (`coming_recut`).

  3. **Punctual sockets** — no receive times out, however often it is asked.  Two of them over
     the same stream are in step (`SameStream`), whatever the cuts.
-/
import HassSma.Bluez.RfcommStream
import Mathlib.Logic.Relation

namespace HassSma

/-! ## What is to come -/

namespace FrameReader

/-- The reader with these frames in front of its queue. -/
def queued (frames : List (List UInt8)) (r : FrameReader) : FrameReader :=
  { r with completed := frames ++ r.completed }

theorem pushByteAux_queued (frames : List (List UInt8)) (depth : Nat) (r : FrameReader) (b : UInt8) :
    pushByteAux depth (r.queued frames) b = (pushByteAux depth r b).queued frames := by
  induction depth generalizing r b with
  | zero => rfl
  | succ depth ih =>
    have hreplay : ∀ (s : List UInt8) (r : FrameReader),
        s.foldl (pushByteAux depth) (r.queued frames) = (s.foldl (pushByteAux depth) r).queued frames := by
      intro s
      induction s with
      | nil => exact fun _ => rfl
      | cons c s ihs =>
        intro r
        rw [List.foldl_cons, List.foldl_cons, ih, ihs]
    obtain ⟨inProgress, expectedLen, completed⟩ := r
    show pushByteAux (depth + 1) ⟨inProgress, expectedLen, frames ++ completed⟩ b
      = (pushByteAux (depth + 1) ⟨inProgress, expectedLen, completed⟩ b).queued frames
    unfold pushByteAux
    by_cases hidle : inProgress = []
    · rw [if_pos hidle, if_pos hidle]
      split <;> rfl
    · rw [if_neg hidle, if_neg hidle]
      cases expectedLen with
      | none =>
        simp only
        split
        · split
          · rfl
          · exact hreplay _ ⟨[], none, completed⟩
        · rfl
      | some want =>
        simp only
        split
        · rw [List.append_assoc]
          rfl
        · rfl

/-- What is queued does not matter to the bytes that come in. -/
theorem push_queued (frames : List (List UInt8)) (r : FrameReader) (data : List UInt8) :
    (r.queued frames).push data = (r.push data).queued frames := by
  induction data generalizing r with
  | nil => rfl
  | cons b data ih =>
    show ((r.queued frames).pushByte b).push data = ((r.pushByte b).push data).queued frames
    rw [pushByte, pushByteAux_queued]
    exact ih (pushByteAux 2 r b)

/-- The frames and the errors that receives will give over these results of `recv(2)`. -/
def coming : List RecvResult → FrameReader → List (Except TransportError (List UInt8))
  | [], r => r.completed.map .ok
  | .errno e :: rest, r =>
    r.completed.map .ok ++ .error (.io e) :: coming rest { r with completed := [] }
  | .bytes chunk :: rest, r =>
    if chunk = [] then r.completed.map .ok ++ .error .closed :: coming rest { r with completed := [] }
    else coming rest (r.push chunk)

/-- A queued frame comes first. -/
theorem coming_queued (f : List UInt8) (recvs : List RecvResult) (r : FrameReader) :
    coming recvs (r.queued [f]) = .ok f :: coming recvs r := by
  induction recvs generalizing r with
  | nil => rfl
  | cons result rest ih =>
    cases result with
    | errno e => rfl
    | bytes chunk =>
      rw [coming, coming, push_queued]
      split
      · rfl
      · exact ih (r.push chunk)

/-- A frame that is popped was the first. -/
theorem coming_pop {f : List UInt8} {r : FrameReader} (h : r.popFrame.1 = some f)
    (recvs : List RecvResult) : coming recvs r = .ok f :: coming recvs r.popFrame.2 := by
  obtain ⟨inProgress, expectedLen, completed⟩ := r
  cases completed with
  | nil => nomatch h
  | cons g gs =>
    obtain rfl : g = f := Option.some.inj h
    exact coming_queued g recvs ⟨inProgress, expectedLen, gs⟩

end FrameReader

namespace RfcommTransport

open FrameReader

def coming (t : RfcommTransport) : List (Except TransportError (List UInt8)) :=
  FrameReader.coming t.recvs t.reader

/-- What a receive with this result takes of what is to come. -/
def takenBy (result : Except TransportError (List UInt8)) :
    List (Except TransportError (List UInt8)) :=
  match result with
  | .error (.timeout _) => []
  | .error .mockExhausted => []
  | result => [result]

/-- From `t` to `t'` a receive gives `result`: it takes it off what is to come, and leaves the rest of the
    socket alone. -/
structure Receives (t : RfcommTransport) (result : Except TransportError (List UInt8))
    (t' : RfcommTransport) : Prop where
  coming : t.coming = takenBy result ++ t'.coming
  exhausted : result = .error .mockExhausted → t.coming = []
  fd : t'.fd = t.fd
  sends : t'.sends = t.sends

/-- The loop, over the results to come. -/
theorem receives_recvLoop (timeoutMs : UInt64) (deadline : Option Nat) (recvs : List RecvResult)
    {t : RfcommTransport} (hopen : t.fd ≠ none) (hrecvs : t.recvs = recvs)
    (hqueue : t.reader.completed = []) :
    Receives t (recvLoop timeoutMs deadline recvs t).1 (recvLoop timeoutMs deadline recvs t).2 := by
  obtain ⟨fd, hfd⟩ := Option.ne_none_iff_exists'.mp hopen
  induction recvs generalizing t with
  | nil =>
    unfold recvLoop
    rw [hfd]
    have hnone : t.coming = [] := by rw [RfcommTransport.coming, hrecvs, FrameReader.coming, hqueue]; rfl
    exact ⟨rfl, fun _ => hnone, rfl, rfl⟩
  | cons result rest ih =>
    have hreader : { t.reader with completed := [] } = t.reader := by rw [← hqueue]
    unfold recvLoop
    rw [hfd]
    cases result with
    | errno e =>
      have hcoming : t.coming = .error (.io e) :: FrameReader.coming rest t.reader := by
        rw [RfcommTransport.coming, hrecvs, FrameReader.coming, hqueue, hreader]
        rfl
      exact ⟨hcoming, (fun h => by cases h), hfd.symm, rfl⟩
    | bytes chunk =>
      simp only
      by_cases hne : chunk = []
      · have hcoming : t.coming = .error .closed :: FrameReader.coming rest t.reader := by
          rw [RfcommTransport.coming, hrecvs, FrameReader.coming, if_pos hne, hqueue, hreader]
          rfl
        rw [if_pos hne]
        exact ⟨hcoming, (fun h => by cases h), hfd.symm, rfl⟩
      · have hcoming : t.coming = FrameReader.coming rest (t.reader.push chunk) := by
          rw [RfcommTransport.coming, hrecvs, FrameReader.coming, if_neg hne]
        rw [if_neg hne]
        cases hpop : (t.reader.push chunk).popFrame.1 with
        | some f => exact ⟨hcoming.trans (coming_pop hpop rest), (fun h => by cases h), hfd.symm, rfl⟩
        | none =>
          -- no frame yet: the socket with the chunk taken has the same to come
          have hempty := completed_of_pop_none hpop
          have hreader' : (t.reader.push chunk).popFrame.2 = t.reader.push chunk := (pop_none hpop).2
          have hloop : ∀ u : RfcommTransport, u.fd = t.fd → u.sends = t.sends → u.recvs = rest →
              u.reader = t.reader.push chunk →
              Receives t (recvLoop timeoutMs deadline rest u).1 (recvLoop timeoutMs deadline rest u).2 := by
            intro u hufd husends hurecvs hureader
            have hu := ih (t := u) (by rw [hufd]; exact hopen) hurecvs (by rw [hureader]; exact hempty)
              (hufd.trans hfd)
            have hsame : t.coming = u.coming := by rw [hcoming, RfcommTransport.coming, hurecvs, hureader]
            refine ⟨hsame.trans hu.coming, fun h => hsame.trans (hu.exhausted h), ?_, ?_⟩
            · rw [hu.fd, hufd]
            · rw [hu.sends, husends]
          simp only [hreader']
          cases deadline with
          | none => exact hloop _ hfd.symm rfl rfl rfl
          | some d =>
            simp only
            split
            · exact ⟨hcoming, (fun h => by cases h), hfd.symm, rfl⟩
            · exact hloop _ hfd.symm rfl rfl rfl

/-- **A receive** takes the first of what is to come, or times out and leaves it. -/
theorem recvFrame_coming {t : RfcommTransport} (hopen : t.fd ≠ none) (timeoutMs : UInt64) :
    Receives t (Transport.recvFrame t timeoutMs).1 (Transport.recvFrame t timeoutMs).2 := by
  show Receives t (recvFrame t timeoutMs).1 (recvFrame t timeoutMs).2
  rw [recvFrame]
  cases hpop : t.reader.popFrame.1 with
  | some f => exact ⟨coming_pop hpop t.recvs, (fun h => by cases h), rfl, rfl⟩
  | none =>
    have hqueue := completed_of_pop_none hpop
    simp only
    split
    · have h := receives_recvLoop timeoutMs (some (t.now.1 + timeoutMs.toNat * 1000000)) t.recvs
        (t := t.now.2) hopen rfl hqueue
      exact ⟨h.coming, h.exhausted, h.fd, h.sends⟩
    · exact receives_recvLoop timeoutMs none t.recvs hopen rfl hqueue

end RfcommTransport

/-! ## Cutting -/

/-- One chunk is cut in two. -/
inductive Cut : List RecvResult → List RecvResult → Prop where
  | here {a b : List UInt8} (rest : List RecvResult) (ha : a ≠ []) (hb : b ≠ []) :
    Cut (.bytes (a ++ b) :: rest) (.bytes a :: .bytes b :: rest)
  | later (result : RecvResult) {recvs recvs' : List RecvResult} (h : Cut recvs recvs') :
    Cut (result :: recvs) (result :: recvs')

/-- The same bytes, with errors in the same places: chunks are cut, and joined with their neighbours. -/
def Recut : List RecvResult → List RecvResult → Prop := Relation.EqvGen Cut

theorem coming_cut {recvs recvs' : List RecvResult} (h : Cut recvs recvs') (r : FrameReader) :
    FrameReader.coming recvs r = FrameReader.coming recvs' r := by
  induction h generalizing r with
  | @here a b rest ha hb =>
    have hab : a ++ b ≠ [] := fun h => ha (List.append_eq_nil_iff.mp h).1
    rw [FrameReader.coming, if_neg hab, FrameReader.coming, if_neg ha, FrameReader.coming, if_neg hb,
      RfcommTransport.push_append]
  | later result h ih =>
    cases result with
    | errno e => rw [FrameReader.coming, FrameReader.coming, ih]
    | bytes chunk =>
      rw [FrameReader.coming, FrameReader.coming]
      split
      · rw [ih]
      · rw [ih]

theorem coming_recut {recvs recvs' : List RecvResult} (h : Recut recvs recvs') (r : FrameReader) :
    FrameReader.coming recvs r = FrameReader.coming recvs' r := by
  induction h with
  | rel _ _ h => exact coming_cut h r
  | refl => rfl
  | symm _ _ _ ih => exact ih.symm
  | trans _ _ _ _ _ ih ih' => exact ih.trans ih'

namespace RfcommTransport

/-! ## Punctual sockets -/

/-- A send, or a receive with this timeout. -/
def Op.Talks (timeoutMs : UInt64) (op : Op) : Prop := op = .recv timeoutMs ∨ ∃ data, op = .send data

/-- However long it is talked to, no receive times out. -/
def Punctual (timeoutMs : UInt64) (t : RfcommTransport) : Prop :=
  ∀ ops : List Op, (∀ op ∈ ops, op.Talks timeoutMs) →
    ∀ ms, (Transport.recvFrame (t.run ops).2 timeoutMs).1 ≠ .error (.timeout ms)

theorem Punctual.step {timeoutMs : UInt64} {t : RfcommTransport} (h : Punctual timeoutMs t) {op : Op}
    (hop : op.Talks timeoutMs) : Punctual timeoutMs (t.step op).2 :=
  fun ops hops => h (op :: ops) (List.forall_mem_cons.mpr ⟨hop, hops⟩)

/-- Two open sockets with the same to come, frames and errors, and the same results of `send(2)`. -/
structure SameStream (timeoutMs : UInt64) (t u : RfcommTransport) : Prop where
  isOpen : t.fd ≠ none ∧ u.fd ≠ none
  sends : t.sends = u.sends
  coming : t.coming = u.coming
  punctual : Punctual timeoutMs t ∧ Punctual timeoutMs u

variable {timeoutMs : UInt64} {t u : RfcommTransport}

/-- A receive that does not time out gives something, or there is nothing more. -/
theorem takenBy_cases {result : Except TransportError (List UInt8)}
    (hin : ∀ ms : UInt64, result ≠ .error (.timeout ms)) :
    result = .error .mockExhausted ∨ takenBy result = [result] := by
  cases result with
  | ok f => exact .inr rfl
  | error e =>
    cases e with
    | io errno => exact .inr rfl
    | closed => exact .inr rfl
    | timeout ms => exact absurd rfl (hin ms)
    | mockExhausted => exact .inl rfl

/-- What is to come says what a receive gives that does not time out. -/
theorem Receives.result_eq {result result' : Except TransportError (List UInt8)} {t' u' : RfcommTransport}
    (h : Receives t result t') (h' : Receives u result' u') (hsame : t.coming = u.coming)
    (hin : ∀ ms : UInt64, result ≠ .error (.timeout ms))
    (hin' : ∀ ms : UInt64, result' ≠ .error (.timeout ms)) : result = result' ∧ t'.coming = u'.coming := by
  have hcoming := h.coming
  have hcoming' := h'.coming
  rcases takenBy_cases hin with rfl | htake
  · -- nothing is to come, on neither socket
    have hnone := h.exhausted rfl
    rw [hsame] at hnone
    rcases takenBy_cases hin' with rfl | htake'
    · exact ⟨rfl, by rw [← List.nil_append t'.coming, ← List.nil_append u'.coming]
                     exact hcoming.symm.trans (hsame.trans hcoming')⟩
    · rw [hnone, htake'] at hcoming'
      cases hcoming'
  · rcases takenBy_cases hin' with rfl | htake'
    · have hnone := h'.exhausted rfl
      rw [hsame, hnone, htake] at hcoming
      cases hcoming
    · rw [htake] at hcoming
      rw [htake', ← hsame, hcoming] at hcoming'
      exact List.cons.inj hcoming'

/-- **In step**: a receive gives the same on both. -/
theorem SameStream.recv (h : SameStream timeoutMs t u) :
    (Transport.recvFrame t timeoutMs).1 = (Transport.recvFrame u timeoutMs).1 ∧
      SameStream timeoutMs (Transport.recvFrame t timeoutMs).2 (Transport.recvFrame u timeoutMs).2 := by
  have ht := recvFrame_coming h.isOpen.1 timeoutMs
  have hu := recvFrame_coming h.isOpen.2 timeoutMs
  obtain ⟨hresult, hcoming⟩ := ht.result_eq hu h.coming (h.punctual.1 [] (List.forall_mem_nil _))
    (h.punctual.2 [] (List.forall_mem_nil _))
  refine ⟨hresult, ?_, ?_, hcoming, ?_, ?_⟩
  · rw [ht.fd, hu.fd]
    exact h.isOpen
  · rw [ht.sends, hu.sends, h.sends]
  · exact h.punctual.1.step (.inl rfl)
  · exact h.punctual.2.step (.inl rfl)

/-- And so does a send. -/
theorem SameStream.send (h : SameStream timeoutMs t u) (data : List UInt8) :
    (Transport.sendFrame t data).1 = (Transport.sendFrame u data).1 ∧
      SameStream timeoutMs (Transport.sendFrame t data).2 (Transport.sendFrame u data).2 := by
  have hpunctual : Punctual timeoutMs (sendFrame t data).2 ∧ Punctual timeoutMs (sendFrame u data).2 :=
    ⟨h.punctual.1.step (.inr ⟨data, rfl⟩), h.punctual.2.step (.inr ⟨data, rfl⟩)⟩
  show (sendFrame t data).1 = (sendFrame u data).1 ∧
    SameStream timeoutMs (sendFrame t data).2 (sendFrame u data).2
  obtain ⟨fd, hfd⟩ := Option.ne_none_iff_exists'.mp h.isOpen.1
  obtain ⟨fd', hfd'⟩ := Option.ne_none_iff_exists'.mp h.isOpen.2
  have hsends := h.sends
  unfold sendFrame at hpunctual ⊢
  simp only [hfd, hfd', ← hsends] at hpunctual ⊢
  cases hresults : t.sends with
  | nil => exact ⟨rfl, h⟩
  | cons result rest =>
    rw [hresults] at hpunctual
    cases result with
    | ok n => exact ⟨rfl, ⟨Option.some_ne_none _, Option.some_ne_none _⟩, rfl, h.coming, hpunctual⟩
    | error e => exact ⟨rfl, ⟨Option.some_ne_none _, Option.some_ne_none _⟩, rfl, h.coming, hpunctual⟩

/-! ### A clock that is slow enough -/

/-- Over a clock that stays below the deadline, if there is one, the loop does not time out. -/
theorem recvLoop_in_time (deadline : Option Nat) (recvs : List RecvResult)
    (hclock : ∀ d, deadline = some d → ∀ j, t.clock j ≤ d) (ms : UInt64) :
    (recvLoop timeoutMs deadline recvs t).1 ≠ .error (.timeout ms) := by
  induction recvs generalizing t with
  | nil =>
    unfold recvLoop
    split <;> exact fun h => by cases h
  | cons result rest ih =>
    unfold recvLoop
    split
    · exact fun h => by cases h
    · cases result with
      | errno e => exact fun h => by cases h
      | bytes chunk =>
        simp only
        split
        · exact fun h => by cases h
        · split
          · exact fun h => by cases h
          · cases deadline with
            | none => exact ih hclock
            | some d =>
              have hnot : ¬ t.clock t.readings > d := Nat.not_lt.mpr (hclock d rfl t.readings)
              simp only
              split
              · rename_i hpast
                exact absurd hpast hnot
              · exact ih hclock

theorem recvLoop_clock (deadline : Option Nat) (recvs : List RecvResult) (t : RfcommTransport) :
    (recvLoop timeoutMs deadline recvs t).2.clock = t.clock := by
  induction recvs generalizing t with
  | nil =>
    unfold recvLoop
    split <;> rfl
  | cons result rest ih =>
    unfold recvLoop
    split
    · rfl
    · split
      · rfl
      · split
        · rfl
        · simp only
          split
          · rfl
          · split
            · rw [ih]
            · split
              · rfl
              · rw [ih]
                rfl

theorem step_clock (t : RfcommTransport) (op : Op) : (t.step op).2.clock = t.clock := by
  cases op with
  | send data =>
    show (sendFrame t data).2.clock = t.clock
    unfold sendFrame
    split
    · rfl
    · split <;> rfl
  | recv timeoutMs =>
    show (recvFrame t timeoutMs).2.clock = t.clock
    unfold recvFrame
    simp only
    split
    · rfl
    · split <;> exact recvLoop_clock ..
  | close => rfl

theorem run_clock (t : RfcommTransport) (ops : List Op) : (t.run ops).2.clock = t.clock := by
  induction ops generalizing t with
  | nil => rfl
  | cons op ops ih => exact (ih _).trans (step_clock t op)

/-- A clock that never moves by more than the timeout. -/
theorem punctual_of_clock (h : ∀ i j, t.clock j ≤ t.clock i + timeoutMs.toNat * 1000000) :
    Punctual timeoutMs t := by
  have hrecv : ∀ u : RfcommTransport, u.clock = t.clock →
      ∀ ms, (recvFrame u timeoutMs).1 ≠ .error (.timeout ms) := by
    intro u hu ms
    unfold recvFrame
    simp only
    split
    · exact fun h => by cases h
    · split
      · refine recvLoop_in_time _ u.recvs (fun d hd j => ?_) ms
        obtain rfl := Option.some.inj hd
        show u.clock j ≤ u.clock u.readings + _
        rw [hu]
        exact h u.readings j
      · exact recvLoop_in_time none u.recvs (fun d hd => by cases hd) ms
  intro ops _ ms
  exact hrecv _ (run_clock t ops) ms

end RfcommTransport

end HassSma
