/-
  The frame reader with every access checked, and what holds of it in every state.

  Here is the reader of `framer.rs` a second time, access by access as in the source: indices and
  ranges are checked, the `unwrap` and the `debug_assert` trap, and so does a replay within a replay.
  That a frame ends exactly where its header said, and that a bad header is replayed to an end, are
  facts about the states the reader gets into.  The states are those of `pushByteAux_readerOf`: a reader
  is always the one that waits on what the scanner waits on.

  So no byte traps (`pushByteAux_ok`), and the buffer is always empty, or a piece of a header, or a sound
  header with fewer bytes than it declares (`RepInv`, `reader_invariant`).
-/
import HassSma.Bluez.Framer
import HassSma.Lib.Checked

namespace HassSma

open Bytes Checked

namespace Literal

/-! ## The frame reader -/

/-- One byte, with the depth of the replay's recursion bounded by the first argument: to go deeper is a
    trap. -/
def pushByteAux : Nat → FrameReader → UInt8 → Checked FrameReader
  | 0, _, _ => .error .endless
  | depth + 1, r, b =>
    if r.inProgress = [] then
      if b = frameDelimiter then pure { r with inProgress := [b] } else pure r
    else
      let buffered := r.inProgress ++ [b]
      if r.expectedLen = none then
        if buffered.length = headerLen then do
          let lenLo ← index buffered 1
          let lenHi ← index buffered 2
          let declared := readU16 [lenLo, lenHi]
          let hdrCks ← index buffered 3
          let expectedCks := frameDelimiter ^^^ lenLo ^^^ lenHi
          if hdrCks = expectedCks ∧ minDeclaredLen ≤ declared ∧ declared ≤ maxDeclaredLen then
            pure { r with inProgress := buffered, expectedLen := some declared.toNat }
          else
            let tail ← rangeFrom buffered 1
            tail.foldlM (pushByteAux depth) { r with inProgress := [], expectedLen := none }
        else pure { r with inProgress := buffered }
      else do
        let want ← unwrap r.expectedLen
        if buffered.length ≥ want then
          debugAssert (buffered.length = want)
          pure ⟨[], none, r.completed ++ [buffered]⟩
        else pure { r with inProgress := buffered }

def pushByte (r : FrameReader) (b : UInt8) : Checked FrameReader := pushByteAux 2 r b

def push (r : FrameReader) (data : List UInt8) : Checked FrameReader := data.foldlM pushByte r

/-- A run of calls.  A pop takes a frame or finds none. -/
def run : FrameReader → List FrameReader.Call → Checked (List (List UInt8) × FrameReader)
  | r, [] => pure ([], r)
  | r, .push data :: calls => do run (← push r data) calls
  | r, .popFrame :: calls => do
    let (frames, r') ← run r.popFrame.2 calls
    pure (r.popFrame.1.toList ++ frames, r')

/-- Until a header can be complete there is no access at all. -/
theorem pushByteAux_short_ok (depth : Nat) {p : List UInt8} (hlen : p.length < 3) (b : UInt8)
    (done : List (List UInt8)) :
    pushByteAux (depth + 1) (readerOf p done) b
      = .ok (FrameReader.pushByteAux (depth + 1) (readerOf p done) b) := by
  have hexp : (readerOf p done).expectedLen = none := if_pos (by omega)
  have hheader : ¬ ((readerOf p done).inProgress ++ [b]).length = headerLen := by
    show ¬ (p ++ [b]).length = 4
    rw [List.length_append, List.length_singleton]
    omega
  rw [pushByteAux, FrameReader.pushByteAux, if_pos hexp, hexp]
  split
  · split <;> rfl
  · simp only [if_neg hheader]
    rfl

/-- The replay of a header's last three bytes. -/
theorem replay_ok (depth : Nat) {s : List UInt8} (hs : s.length ≤ 3) (done : List (List UInt8)) :
    s.foldlM (pushByteAux (depth + 1)) (readerOf [] done)
      = .ok (s.foldl (FrameReader.pushByteAux (depth + 1)) (readerOf [] done)) := by
  refine foldlM_ok (fun n r => ∃ p done, smaFraming.Waiting p ∧ p.length + n ≤ 3 ∧
    r = readerOf p done) ?_ s ⟨[], done, smaFraming.waiting_nil, by simpa using hs, rfl⟩
  rintro n _ b ⟨p, done, hp, hlen, rfl⟩
  have hpend := smaFraming.length_pending_le (p ++ [b])
  rw [List.length_append, List.length_singleton] at hpend
  exact ⟨pushByteAux_short_ok depth (by omega) b done, _, _, smaFraming.waiting_pending (p ++ [b]),
    by omega, pushByteAux_short depth hp (by omega) b done⟩

/-- The fourth byte: three indices, and the tail to replay. -/
theorem pushByteAux_header_ok (depth : Nat) (lenLo lenHi b : UInt8) (done : List (List UInt8)) :
    pushByteAux (depth + 2) (readerOf [frameDelimiter, lenLo, lenHi] done) b
      = .ok (FrameReader.pushByteAux (depth + 2) (readerOf [frameDelimiter, lenLo, lenHi] done) b) := by
  have hin : (readerOf [frameDelimiter, lenLo, lenHi] done).inProgress
      = [frameDelimiter, lenLo, lenHi] := rfl
  have hexp : (readerOf [frameDelimiter, lenLo, lenHi] done).expectedLen = none := rfl
  have hreplay := replay_ok depth (s := [lenLo, lenHi, b]) (by simp) done
  rw [pushByteAux, FrameReader.pushByteAux, hin, if_neg (List.cons_ne_nil _ _),
    if_neg (List.cons_ne_nil _ _), if_pos hexp, hexp]
  have hlen : ([frameDelimiter, lenLo, lenHi] ++ [b]).length = 4 := rfl
  have hheader : ([frameDelimiter, lenLo, lenHi] ++ [b]).length = headerLen := hlen
  simp only [if_pos hheader]
  rw [index_ok (by omega), ok_bind, index_ok (by omega), ok_bind, index_ok (by omega), ok_bind,
    rangeFrom_ok (by omega), ok_bind]
  split
  · rfl
  · exact hreplay

/-- **One byte does not trap**: the header says no less than it has bytes, and a frame is never longer
    than its header said. -/
theorem pushByteAux_ok (depth : Nat) {p : List UInt8} (hp : smaFraming.Waiting p) (b : UInt8)
    (done : List (List UInt8)) :
    pushByteAux (depth + 2) (readerOf p done) b
      = .ok (FrameReader.pushByteAux (depth + 2) (readerOf p done) b) := by
  rcases Nat.lt_or_ge p.length 3 with hlen | hlen
  · exact pushByteAux_short_ok (depth + 1) hlen b done
  · rcases smaFraming.waiting_cases hp with rfl | ⟨a, s, rfl, ha, hshort | ⟨hs, want, hwant, hlt⟩⟩
    · simp at hlen
    · -- three bytes of a header
      rw [smaFraming_headerLen] at hshort
      obtain rfl : a = frameDelimiter := by simpa using ha
      match s, hlen, hshort with
      | [lenLo, lenHi], _, _ => exact pushByteAux_header_ok depth lenLo lenHi b done
    · -- the header is known, and the frame has not reached its length
      rw [smaFraming_headerLen] at hs hwant
      have hexp : (readerOf (a :: s) done).expectedLen = some want :=
        (if_neg (by omega)).trans hwant
      have hin : (readerOf (a :: s) done).inProgress = a :: s := rfl
      have hsnoc : (a :: s ++ [b]).length = (a :: s).length + 1 := by
        rw [List.length_append, List.length_singleton]
      rw [pushByteAux, FrameReader.pushByteAux, hexp, hin, if_neg (List.cons_ne_nil a s),
        if_neg (List.cons_ne_nil a s), if_neg (Option.some_ne_none want)]
      simp only [unwrap, ok_bind]
      by_cases hend : (a :: s ++ [b]).length ≥ want
      · rw [if_pos hend, if_pos hend, debugAssert_ok (by omega)]
        rfl
      · rw [if_neg hend, if_neg hend]
        rfl

theorem push_ok {p : List UInt8} (hp : smaFraming.Waiting p) (data : List UInt8)
    (done : List (List UInt8)) :
    push (readerOf p done) data = .ok ((readerOf p done).push data) := by
  refine foldlM_ok (fun _ r => ∃ p done, smaFraming.Waiting p ∧ r = readerOf p done) ?_ data
    ⟨p, done, hp, rfl⟩
  rintro n _ b ⟨p, done, hp, rfl⟩
  exact ⟨pushByteAux_ok 0 hp b done, _, _, smaFraming.waiting_pending (p ++ [b]),
    pushByteAux_readerOf 0 hp b done⟩

/-- **No run of the reader traps**, whatever is pushed, in whatever pieces, and whenever frames are
    popped. -/
theorem run_ok (calls : List FrameReader.Call) {p : List UInt8} (hp : smaFraming.Waiting p)
    (done : List (List UInt8)) : run (readerOf p done) calls = .ok ((readerOf p done).run calls) := by
  induction calls generalizing p done with
  | nil => rfl
  | cons call calls ih =>
    cases call with
    | push data =>
      rw [run, push_ok hp, ok_bind, FrameReader.run, FrameReader.push_readerOf hp]
      exact ih (smaFraming.waiting_pending (p ++ data)) _
    | popFrame =>
      have hpop : (readerOf p done).popFrame = (done.head?, readerOf p done.tail) := rfl
      rw [run, hpop, ih hp done.tail]
      rfl

end Literal

/-! ## The representation invariant -/

namespace FrameReader

/-- The buffer is empty, or a piece of a header, or a sound header with fewer bytes behind it than it
    declares; a frame in the queue is as long as it declares. -/
structure RepInv (r : FrameReader) : Prop where
  inProgress :
    (r.inProgress = [] ∧ r.expectedLen = none) ∨
      r.inProgress.head? = some frameDelimiter ∧
        ((r.expectedLen = none ∧ r.inProgress.length < headerLen) ∨
          ∃ n, r.expectedLen = some n ∧ 18 ≤ n ∧ n ≤ 2048 ∧
            byteAt r.inProgress 3
              = frameDelimiter ^^^ byteAt r.inProgress 1 ^^^ byteAt r.inProgress 2 ∧
            (readU16 [byteAt r.inProgress 1, byteAt r.inProgress 2]).toNat = n ∧
            headerLen ≤ r.inProgress.length ∧ r.inProgress.length < n)
  completed : ∀ f ∈ r.completed, (readU16 [byteAt f 1, byteAt f 2]).toNat = f.length

/-- The byte completes a header that fails: the header's other bytes are replayed. -/
def Replays (r : FrameReader) (b : UInt8) : Prop :=
  r.inProgress ≠ [] ∧ r.expectedLen = none ∧ (r.inProgress ++ [b]).length = headerLen ∧
    ¬ (b = frameDelimiter ^^^ byteAt r.inProgress 1 ^^^ byteAt r.inProgress 2 ∧
      minDeclaredLen ≤ readU16 [byteAt r.inProgress 1, byteAt r.inProgress 2] ∧
      readU16 [byteAt r.inProgress 1, byteAt r.inProgress 2] ≤ maxDeclaredLen)

/-- What waits, and a queue of sound frames, is a reader that keeps the invariant. -/
theorem repInv_readerOf {p : List UInt8} (hp : smaFraming.Waiting p) {done : List (List UInt8)}
    (hdone : ∀ f ∈ done, headerDeclares (f.take 4) = some f.length) : RepInv (readerOf p done) := by
  refine ⟨?_, fun f hf => (declares_header (hdone f hf)).2.2⟩
  show (p = [] ∧ _) ∨ p.head? = _ ∧ _
  rcases smaFraming.waiting_cases hp with rfl | ⟨a, s, rfl, ha, hwait⟩
  · left
    exact ⟨rfl, rfl⟩
  · right
    have hstart : a = frameDelimiter := by simpa using ha
    refine ⟨by rw [hstart]; rfl, ?_⟩
    rw [smaFraming_headerLen, smaFraming_declared] at hwait
    rcases hwait with hshort | ⟨hlong, n, hdecl, hlt⟩
    · left
      exact ⟨if_pos hshort, hshort⟩
    · right
      have hexp : (readerOf (a :: s) done).expectedLen = some n := (if_neg (by omega)).trans hdecl
      obtain ⟨-, hcks, hread⟩ := declares_header hdecl
      obtain ⟨hmin, hmax⟩ := headerDeclares_range hdecl
      exact ⟨n, hexp, hmin, hmax, hcks, hread, hlong, hlt⟩

/-- Less than a header is never replayed. -/
theorem not_replays_short {r : FrameReader} (h : r.inProgress.length < 3) (b : UInt8) :
    ¬ Replays r b := by
  rintro ⟨-, -, hlen, -⟩
  rw [List.length_append, List.length_singleton, headerLen] at hlen
  omega

/-- A reader that has taken in less than three bytes since it was empty holds less than three. -/
theorem length_inProgress_replay {s : List UInt8} (hs : s.length < 3) (done : List (List UInt8)) :
    (s.foldl pushByte ⟨[], none, done⟩).inProgress.length < 3 := by
  have hpend := smaFraming.length_pending_le s
  show ((readerOf [] done).push s).inProgress.length < 3
  rw [push_readerOf smaFraming.waiting_nil]
  show (smaFraming.scan ([] ++ s)).2.length < 3
  rw [List.nil_append]
  omega

/-- **The reader's invariant**, in every state that pushes and pops lead to.  So the buffer is bounded;
    no access of a run traps, the assertion on a frame's length included; a byte comes to an end with one
    replay at most; and none of the bytes that are replayed starts another replay. -/
theorem reader_invariant (calls : List Call) :
    RepInv (new.run calls).2 ∧ (new.run calls).2.inProgress.length < 2048 ∧
      Literal.run new calls = .ok (new.run calls) ∧
      (∀ depth b, Literal.pushByteAux (depth + 2) (new.run calls).2 b
        = .ok ((new.run calls).2.pushByte b)) ∧
      ∀ b replayed c rest, Replays (new.run calls).2 b →
        ((new.run calls).2.inProgress ++ [b]).drop 1 = replayed ++ c :: rest →
          ¬ Replays (replayed.foldl pushByte ⟨[], none, (new.run calls).2.completed⟩) c := by
  obtain ⟨-, hreader⟩ := run_readerOf calls smaFraming.waiting_nil []
  rw [show readerOf [] [] = new from rfl, List.nil_append] at hreader
  have hwait := smaFraming.waiting_pending (fed calls)
  have hqueued : ∀ f ∈ (new.run calls).2.completed, headerDeclares (f.take 4) = some f.length :=
    fun f hf => (frames_declared calls f (List.mem_append_right _ hf)).1
  have hinv : RepInv (new.run calls).2 := by
    rw [hreader]
    exact repInv_readerOf hwait hqueued
  refine ⟨hinv, ?_, Literal.run_ok calls smaFraming.waiting_nil [], ?_, ?_⟩
  · rcases hinv.inProgress with ⟨hempty, -⟩ | ⟨-, ⟨-, hshort⟩ | ⟨n, -, -, hmax, -, -, -, hlt⟩⟩
    · rw [hempty]
      decide
    · rw [headerLen] at hshort
      omega
    · omega
  · intro depth b
    rw [hreader]
    exact (Literal.pushByteAux_ok depth hwait b _).trans
      (congrArg Except.ok (pushByteAux_depth depth _ b))
  · intro b replayed c rest hreplays htail
    -- of the three bytes, at most two are in the buffer when the next one comes
    obtain ⟨-, -, hlen, -⟩ := hreplays
    have htaillen := congrArg List.length htail
    rw [List.length_drop, hlen, headerLen, List.length_append, List.length_cons] at htaillen
    exact not_replays_short (length_inProgress_replay (by omega) _) c

end FrameReader

end HassSma
