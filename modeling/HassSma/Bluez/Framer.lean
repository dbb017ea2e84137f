/-
  Stream to frame reassembly (`bluez-transport/src/framer.rs`).

  The reader takes one byte at a time.  Between frames it drops bytes until a `0x7E`; then it
  collects the 4-byte header, and once the header is sound it collects as many bytes as the header
  declares.  On a bad header it drops the leading `0x7E` and replays the other three bytes through
  itself, since a genuine frame may start among them.

  1. **Program** — `FrameReader`, `pushByte`, `push`, `popFrame`, `hasFrame`.  The replay makes
     `pushByte` recursive; the model bounds the depth and `pushByteAux_depth` shows that a bound of
     two is never felt: three bytes cannot complete another header.

  2. **Specification** — `smaFraming.scan`, the leftmost-greedy reading of the whole stream.

  3. **The crux (`pushByteAux_readerOf`)** — the reader's state is a function of what the scanner is
     still waiting on (`readerOf`), and one byte moves it as the scanner moves.  The replay is the
     same fact for strings too short to hold a header (`pushByteAux_short`, `replay_readerOf`).

  4. **Runs** — any pushes and pops in any order: popped frames and queued frames together are the
     scanner's (`frameReader_refines_scan`), so a stream made of built frames with noise between them
     comes out as those frames (`wire_stream_round_trip`).  Whatever the stream, the parser finds
     nothing to object to in the header of a frame that comes out (`popped_frame_parses`).
-/
import HassSma.Lib.StreamScan
import HassSma.Protocol.Frame

namespace HassSma

open Bytes

/-! ## The program -/

/-- L1 header: `0x7E | len_lo | len_hi | hdr_cks`. -/
def headerLen : Nat := 4

/-- Minimum and maximum plausible declared length. -/
def minDeclaredLen : UInt16 := 18
def maxDeclaredLen : UInt16 := 2048

structure FrameReader where
  /-- Bytes of the frame being assembled, starting with `0x7E`. -/
  inProgress : List UInt8
  /-- Total length from the header, once the header has been parsed. -/
  expectedLen : Option Nat
  /-- Complete frames, oldest first. -/
  completed : List (List UInt8)
  deriving DecidableEq, Repr

namespace FrameReader

def new : FrameReader := ⟨[], none, []⟩

/-- One byte, with the depth of the replay's recursion bounded by the first argument. -/
def pushByteAux : Nat → FrameReader → UInt8 → FrameReader
  | 0, r, _ => r
  | depth + 1, r, b =>
    if r.inProgress = [] then
      if b = frameDelimiter then { r with inProgress := [b] } else r
    else
      let buffered := r.inProgress ++ [b]
      match r.expectedLen with
      | none =>
        if buffered.length = headerLen then
          let lenLo := byteAt buffered 1
          let lenHi := byteAt buffered 2
          let declared := readU16 [lenLo, lenHi]
          let hdrCks := byteAt buffered 3
          let expectedCks := frameDelimiter ^^^ lenLo ^^^ lenHi
          if hdrCks = expectedCks ∧ minDeclaredLen ≤ declared ∧ declared ≤ maxDeclaredLen then
            { r with inProgress := buffered, expectedLen := some declared.toNat }
          else
            -- resync: drop the leading 0x7E, replay the other header bytes
            (buffered.drop 1).foldl (pushByteAux depth)
              { r with inProgress := [], expectedLen := none }
        else { r with inProgress := buffered }
      | some want =>
        if buffered.length ≥ want then ⟨[], none, r.completed ++ [buffered]⟩
        else { r with inProgress := buffered }

def pushByte (r : FrameReader) (b : UInt8) : FrameReader := pushByteAux 2 r b

/-- Feed raw bytes. -/
def push (r : FrameReader) (data : List UInt8) : FrameReader := data.foldl pushByte r

/-- Pop the next complete frame if one is ready. -/
def popFrame (r : FrameReader) : Option (List UInt8) × FrameReader :=
  (r.completed.head?, { r with completed := r.completed.tail })

def hasFrame (r : FrameReader) : Bool := !r.completed.isEmpty

end FrameReader

/-! ## The specification -/

/-- The length a 4-byte header declares, if it is one. -/
def headerDeclares : List UInt8 → Option Nat
  | [start, lenLo, lenHi, hdrCks] =>
    if start = frameDelimiter ∧ hdrCks = frameDelimiter ^^^ lenLo ^^^ lenHi ∧
        18 ≤ lenLo.toNat + 256 * lenHi.toNat ∧ lenLo.toNat + 256 * lenHi.toNat ≤ 2048
    then some (lenLo.toNat + 256 * lenHi.toNat) else none
  | _ => none

theorem headerDeclares_range {h : List UInt8} {n : Nat} (hn : headerDeclares h = some n) :
    18 ≤ n ∧ n ≤ 2048 := by
  unfold headerDeclares at hn
  split at hn
  · split at hn
    · rename_i hok
      obtain rfl := Option.some.inj hn
      exact hok.2.2
    · nomatch hn
  · nomatch hn

/-- Frames start with `0x7E` and declare their length in a 4-byte header. -/
def smaFraming : Framing UInt8 where
  isStart b := b = frameDelimiter
  headerLen := 4
  declared := headerDeclares
  headerLen_pos := by decide
  headerLen_le hn := by
    have h := headerDeclares_range hn
    omega

@[simp] theorem smaFraming_headerLen : smaFraming.headerLen = 4 := rfl
@[simp] theorem smaFraming_declared : smaFraming.declared = headerDeclares := rfl
@[simp] theorem smaFraming_isStart (b : UInt8) :
    smaFraming.isStart b = decide (b = frameDelimiter) := rfl

/-! ## The reader's state is what the scanner waits on -/

/-- The reader that waits on `p` and has `done` queued. -/
def readerOf (p : List UInt8) (done : List (List UInt8)) : FrameReader :=
  ⟨p, if p.length < 4 then none else headerDeclares (p.take 4), done⟩

/-- Where the scanner stands after `s`, given it waited on `p` with `done` found. -/
def scanned (p s : List UInt8) (done : List (List UInt8)) : FrameReader :=
  readerOf (smaFraming.scan (p ++ s)).2 (done ++ (smaFraming.scan (p ++ s)).1)

theorem scanned_of_waiting {p s : List UInt8} (h : smaFraming.Waiting (p ++ s))
    (done : List (List UInt8)) : scanned p s done = readerOf (p ++ s) done := by
  rw [scanned, show smaFraming.scan (p ++ s) = ([], p ++ s) from h, List.append_nil]

/-- The header test of the reader is the scanner's. -/
theorem headerDeclares_eq (lenLo lenHi hdrCks : UInt8) :
    headerDeclares [frameDelimiter, lenLo, lenHi, hdrCks] =
      if hdrCks = frameDelimiter ^^^ lenLo ^^^ lenHi ∧
          minDeclaredLen ≤ readU16 [lenLo, lenHi] ∧ readU16 [lenLo, lenHi] ≤ maxDeclaredLen
      then some (readU16 [lenLo, lenHi]).toNat else none := by
  have hread : (readU16 [lenLo, lenHi]).toNat = lenLo.toNat + 256 * lenHi.toNat := by
    have hlo := lenLo.toNat_lt
    have hhi := lenHi.toNat_lt
    have hval : readU16 [lenLo, lenHi]
        = UInt16.ofNat (lenLo.toNat + 256 * (lenHi.toNat + 256 * 0)) := rfl
    rw [hval, UInt16.toNat_ofNat']
    omega
  have hmin : minDeclaredLen ≤ readU16 [lenLo, lenHi] ↔ 18 ≤ lenLo.toNat + 256 * lenHi.toNat := by
    rw [UInt16.le_iff_toNat_le, hread]
    rfl
  have hmax : readU16 [lenLo, lenHi] ≤ maxDeclaredLen ↔
      lenLo.toNat + 256 * lenHi.toNat ≤ 2048 := by
    rw [UInt16.le_iff_toNat_le, hread]
    rfl
  rw [headerDeclares]
  simp only [hmin, hmax, hread, true_and]

/-- One byte, as long as no header can be complete: the reader needs no replay. -/
theorem pushByteAux_short (depth : Nat) {p : List UInt8} (hp : smaFraming.Waiting p)
    (hlen : p.length < 3) (b : UInt8) (done : List (List UInt8)) :
    FrameReader.pushByteAux (depth + 1) (readerOf p done) b = scanned p [b] done := by
  rcases smaFraming.waiting_cases hp with rfl | ⟨a, s, rfl, ha, -⟩
  · by_cases hb : b = frameDelimiter
    · have hwait : smaFraming.Waiting ([] ++ [b]) :=
        smaFraming.scan_short (by simp [hb]) (by simp)
      rw [scanned_of_waiting hwait, FrameReader.pushByteAux]
      simp [readerOf, hb]
    · rw [scanned, List.nil_append, smaFraming.scan_skip (by simp [hb]), FrameReader.pushByteAux]
      simp [readerOf, hb]
  · have hwait : smaFraming.Waiting (a :: s ++ [b]) :=
      smaFraming.scan_short ha (by simp only [List.length_cons] at hlen; simp; omega)
    have hshort : (a :: s ++ [b]).length < 4 := by
      rw [List.length_append, List.length_singleton]
      omega
    rw [scanned_of_waiting hwait, FrameReader.pushByteAux]
    simp only [readerOf, if_pos hshort, if_pos (show (a :: s).length < 4 by omega)]
    rw [if_neg (List.cons_ne_nil a s), if_neg (by rw [headerLen]; omega)]

/-- Feeding a whole string, given what one byte does. -/
theorem foldl_scanned {step : FrameReader → UInt8 → FrameReader} {bound : Nat}
    (hstep : ∀ {p : List UInt8}, smaFraming.Waiting p → p.length < bound →
      ∀ (b : UInt8) (done : List (List UInt8)), step (readerOf p done) b = scanned p [b] done)
    (s : List UInt8) {p : List UInt8} (hp : smaFraming.Waiting p)
    (hlen : p.length + s.length ≤ bound) (done : List (List UInt8)) :
    s.foldl step (readerOf p done) = scanned p s done := by
  induction s generalizing p done with
  | nil =>
    rw [List.foldl_nil, scanned, List.append_nil, show smaFraming.scan p = ([], p) from hp,
      List.append_nil]
  | cons b s ih =>
    simp only [List.length_cons] at hlen
    have hpend := smaFraming.length_pending_le (p ++ [b])
    rw [List.length_append, List.length_singleton] at hpend
    rw [List.foldl_cons, hstep hp (by omega), scanned,
      ih (smaFraming.waiting_pending _) (by omega), scanned, scanned,
      show p ++ b :: s = p ++ [b] ++ s from List.append_cons p b s,
      smaFraming.scan_append (p ++ [b]) s, List.append_assoc]

/-- The replay of a header's last three bytes. -/
theorem replay_readerOf (depth : Nat) {s : List UInt8} (hs : s.length ≤ 3)
    (done : List (List UInt8)) :
    s.foldl (FrameReader.pushByteAux (depth + 1)) (readerOf [] done) = scanned [] s done :=
  foldl_scanned (fun hp hlen b done => pushByteAux_short depth hp hlen b done) s
    smaFraming.waiting_nil (by simpa using hs) done

/-- A fourth byte completes the header: it is taken, or dropped and its tail replayed. -/
theorem pushByteAux_header (depth : Nat) (lenLo lenHi b : UInt8) (done : List (List UInt8)) :
    FrameReader.pushByteAux (depth + 2) (readerOf [frameDelimiter, lenLo, lenHi] done) b
      = scanned [frameDelimiter, lenLo, lenHi] [b] done := by
  rw [FrameReader.pushByteAux, readerOf]
  simp only [List.length_cons, List.length_nil, List.cons_append, List.nil_append, headerLen]
  rw [if_neg (List.cons_ne_nil _ _)]
  simp only [if_true, show (0 + 1 + 1 + 1 < 4) = True from eq_true (by decide)]
  have hdecl := headerDeclares_eq lenLo lenHi b
  split
  · rename_i hok
    have hsome : headerDeclares [frameDelimiter, lenLo, lenHi, b]
        = some (readU16 [lenLo, lenHi]).toNat := hdecl.trans (if_pos hok)
    have hrange := headerDeclares_range hsome
    have hwait : smaFraming.Waiting ([frameDelimiter, lenLo, lenHi] ++ [b]) :=
      smaFraming.scan_wait rfl (by simp) hsome (by simp; omega)
    rw [scanned_of_waiting hwait]
    simp only [readerOf, List.cons_append, List.nil_append]
    exact congrArg (FrameReader.mk _ · done) hsome.symm
  · rename_i hbad
    have hnone : headerDeclares [frameDelimiter, lenLo, lenHi, b] = none :=
      hdecl.trans (if_neg hbad)
    have hscan : smaFraming.scan ([frameDelimiter, lenLo, lenHi] ++ [b])
        = smaFraming.scan ([] ++ [lenLo, lenHi, b]) := smaFraming.scan_bad (by simp) hnone
    have hreplay := replay_readerOf depth (s := [lenLo, lenHi, b]) (by simp) done
    rw [scanned, hscan]
    exact hreplay

/-- **One byte moves the reader as the scanner moves.** -/
theorem pushByteAux_readerOf (depth : Nat) {p : List UInt8} (hp : smaFraming.Waiting p) (b : UInt8)
    (done : List (List UInt8)) :
    FrameReader.pushByteAux (depth + 2) (readerOf p done) b = scanned p [b] done := by
  rcases Nat.lt_or_ge p.length 3 with hlen | hlen
  · exact pushByteAux_short (depth + 1) hp hlen b done
  · rcases smaFraming.waiting_cases hp with rfl | ⟨a, s, rfl, ha, hshort | ⟨hs, n, hn, hlt⟩⟩
    · simp at hlen
    · -- three bytes of a header
      rw [smaFraming_headerLen] at hshort
      obtain rfl : a = frameDelimiter := by simpa using ha
      match s, hlen, hshort with
      | [lenLo, lenHi], _, _ => exact pushByteAux_header depth lenLo lenHi b done
    · -- the header is known: the frame ends here or goes on
      rw [smaFraming_headerLen] at hs hn
      have hexp : readerOf (a :: s) done = ⟨a :: s, some n, done⟩ := by
        rw [readerOf, if_neg (by omega)]
        exact congrArg (FrameReader.mk _ · done) hn
      have htake : ((a :: s) ++ [b]).take 4 = (a :: s).take 4 := List.take_append_of_le_length hs
      rw [hexp, FrameReader.pushByteAux]
      simp only
      rw [if_neg (List.cons_ne_nil a s)]
      have hsnoc : (a :: s ++ [b]).length = (a :: s).length + 1 := by
        rw [List.length_append, List.length_singleton]
      by_cases hend : (a :: s ++ [b]).length ≥ n
      · rw [if_pos hend]
        have hscan : smaFraming.scan (a :: s ++ [b]) = ([a :: s ++ [b]], []) := by
          rw [List.cons_append, smaFraming.scan_emit (s := s ++ [b]) ha
            (by rw [← List.cons_append]; exact (congrArg headerDeclares htake).trans hn) hend,
            ← List.cons_append, List.take_of_length_le (by omega),
            List.drop_of_length_le (by omega), smaFraming.scan_nil]
        rw [scanned, hscan]
        rfl
      · rw [if_neg hend]
        have hlong : 4 ≤ (a :: s ++ [b]).length := by omega
        have hwait : smaFraming.Waiting (a :: s ++ [b]) :=
          smaFraming.scan_wait (s := s ++ [b]) ha hlong
            ((congrArg headerDeclares htake).trans hn) (Nat.lt_of_not_le hend)
        have hnot : ¬ (a :: s ++ [b]).length < 4 := Nat.not_lt.mpr hlong
        rw [scanned_of_waiting hwait, readerOf, if_neg hnot, htake]
        exact congrArg (FrameReader.mk _ · done) hn.symm

namespace FrameReader

/-- The depth bound is never felt: the replayed bytes cannot complete a header. -/
theorem pushByteAux_depth (depth : Nat) (r : FrameReader) (b : UInt8) :
    pushByteAux (depth + 2) r b = pushByteAux 2 r b := by
  have hreplay : (r.inProgress ++ [b]).length = headerLen →
      ((r.inProgress ++ [b]).drop 1).foldl (pushByteAux (depth + 1)) ⟨[], none, r.completed⟩
        = ((r.inProgress ++ [b]).drop 1).foldl (pushByteAux (0 + 1)) ⟨[], none, r.completed⟩ := by
    intro hlen
    have htail : ((r.inProgress ++ [b]).drop 1).length ≤ 3 := by
      rw [List.length_drop, hlen]
      exact Nat.le_refl 3
    exact (replay_readerOf depth htail r.completed).trans
      (replay_readerOf 0 htail r.completed).symm
  rw [pushByteAux, pushByteAux]
  split
  · rfl
  · cases r.expectedLen with
    | none =>
      simp only
      split
      · rename_i hlen
        rw [hreplay hlen]
      · rfl
    | some want => rfl

/-! ## Runs -/

/-- What a caller does with a reader. -/
inductive Call where
  | push (data : List UInt8)
  | popFrame

/-- The frames popped by a run of calls, and the reader behind it. -/
def run : FrameReader → List Call → List (List UInt8) × FrameReader
  | r, [] => ([], r)
  | r, .push data :: calls => (r.push data).run calls
  | r, .popFrame :: calls =>
    (r.popFrame.1.toList ++ (r.popFrame.2.run calls).1, (r.popFrame.2.run calls).2)

/-- The stream a run of calls feeds in. -/
def fed : List Call → List UInt8
  | [] => []
  | .push data :: calls => data ++ fed calls
  | .popFrame :: calls => fed calls

theorem fed_append (calls calls' : List Call) : fed (calls ++ calls') = fed calls ++ fed calls' := by
  induction calls with
  | nil => rfl
  | cons call calls ih =>
    cases call with
    | push data => rw [List.cons_append, fed, fed, ih, List.append_assoc]
    | popFrame => rw [List.cons_append, fed, fed, ih]

theorem run_append (r : FrameReader) (calls calls' : List Call) :
    r.run (calls ++ calls') =
      ((r.run calls).1 ++ ((r.run calls).2.run calls').1, ((r.run calls).2.run calls').2) := by
  induction calls generalizing r with
  | nil => rfl
  | cons call calls ih =>
    cases call with
    | push data => rw [List.cons_append, run, run, ih]
    | popFrame => rw [List.cons_append, run, run, ih, List.append_assoc]

theorem fed_pops (k : Nat) : fed (List.replicate k .popFrame) = [] := by
  induction k with
  | zero => rfl
  | succ k ih => rw [List.replicate_succ, fed, ih]

theorem completed_pops (k : Nat) (r : FrameReader) :
    (r.run (List.replicate k .popFrame)).2.completed = r.completed.drop k := by
  induction k generalizing r with
  | zero => rfl
  | succ k ih => rw [List.replicate_succ, run, ih, popFrame, List.drop_tail]

theorem push_readerOf {p : List UInt8} (hp : smaFraming.Waiting p) (data : List UInt8)
    (done : List (List UInt8)) : (readerOf p done).push data = scanned p data done :=
  foldl_scanned (fun hp _ b done => pushByteAux_readerOf 0 hp b done) data hp (Nat.le_refl _) done

/-- A run from a waiting reader: nothing is lost between the queue and the caller, and the reader
    goes on waiting as the scanner does. -/
theorem run_readerOf (calls : List Call) {p : List UInt8} (hp : smaFraming.Waiting p)
    (done : List (List UInt8)) :
    ((readerOf p done).run calls).1 ++ ((readerOf p done).run calls).2.completed
        = done ++ (smaFraming.scan (p ++ fed calls)).1 ∧
      ((readerOf p done).run calls).2 = readerOf (smaFraming.scan (p ++ fed calls)).2
        ((readerOf p done).run calls).2.completed := by
  induction calls generalizing p done with
  | nil =>
    rw [fed, List.append_nil, show smaFraming.scan p = ([], p) from hp, List.append_nil]
    exact ⟨rfl, rfl⟩
  | cons call calls ih =>
    cases call with
    | push data =>
      rw [run, push_readerOf hp, fed, ← List.append_assoc,
        smaFraming.scan_append (p ++ data) (fed calls), ← List.append_assoc]
      exact ih (smaFraming.waiting_pending _) _
    | popFrame =>
      have hpop : (readerOf p done).popFrame = (done.head?, readerOf p done.tail) := rfl
      obtain ⟨hframes, hreader⟩ := ih hp done.tail
      rw [run, hpop, fed, List.append_assoc, hframes, ← List.append_assoc]
      refine ⟨?_, hreader⟩
      cases done <;> rfl

/-- Every frame that comes out declares its own length, and has one that a frame may have. -/
theorem frames_declared (calls : List Call) :
    ∀ f ∈ (new.run calls).1 ++ (new.run calls).2.completed,
      headerDeclares (f.take 4) = some f.length ∧ 18 ≤ f.length ∧ f.length ≤ 2048 := by
  intro f hf
  obtain ⟨hframes, -⟩ := run_readerOf calls smaFraming.waiting_nil []
  rw [show new = readerOf [] [] from rfl, hframes, List.nil_append] at hf
  have hvalid := smaFraming.scan_valid _ f hf
  exact ⟨hvalid.declared, headerDeclares_range hvalid.declared⟩

/-- A header that declares a length starts with the delimiter, and its checksum is right. -/
theorem declares_header {p : List UInt8} {n : Nat} (h : headerDeclares (p.take 4) = some n) :
    byteAt p 0 = frameDelimiter ∧ byteAt p 3 = frameDelimiter ^^^ byteAt p 1 ^^^ byteAt p 2 ∧
      (readU16 [byteAt p 1, byteAt p 2]).toNat = n := by
  match p, h with
  | start :: lenLo :: lenHi :: hdrCks :: rest, h =>
    rw [show (start :: lenLo :: lenHi :: hdrCks :: rest).take 4 = [start, lenLo, lenHi, hdrCks]
      from rfl] at h
    have hstart : start = frameDelimiter := by
      by_contra hne
      rw [headerDeclares, if_neg fun hok => hne hok.1] at h
      nomatch h
    rw [hstart, headerDeclares_eq] at h
    split at h
    · rename_i hok
      exact ⟨hstart, hok.1, Option.some.inj h⟩
    · nomatch h

/-- A frame that declares its own length has the header that the parser asks for. -/
theorem headerOk_of_declared {f : List UInt8} (h : headerDeclares (f.take 4) = some f.length)
    (hlen : 18 ≤ f.length) : HeaderOk f := by
  obtain ⟨hstart, hcks, hread⟩ := declares_header h
  exact ⟨hlen, hstart, hcks, hread⟩

/-- **The framer and the parser agree on headers**: whatever comes in, and however it is cut, a frame
    popped from the reader is parsed, or it ends in an escape without its byte.  None of the parser's
    other checks can fail. -/
theorem popped_frame_parses (calls : List Call) :
    ∀ f ∈ (new.run calls).1,
      (∃ frame, Frame.parse f = .ok frame) ∨ Frame.parse f = .error .truncatedEscape := by
  intro f hf
  obtain ⟨hdeclared, hlen, -⟩ := frames_declared calls f (List.mem_append_left _ hf)
  cases hparse : Frame.parse f with
  | ok frame => exact .inl ⟨frame, rfl⟩
  | error e =>
    rw [parse_error_of_header (headerOk_of_declared hdeclared hlen) hparse]
    exact .inr rfl

/-- A frame whose L2 payload ends in the middle of an escape. -/
def danglingEscape : List UInt8 :=
  [0x7E, 0x17, 0x00, 0x69] ++ List.replicate 12 0 ++ [0x08, 0x00] ++ btL2SigBytes ++ [stuffEscape]

theorem popped_frame_parses_dangling :
    (∃ frame, Frame.parse danglingEscape = .ok frame) ∨
      Frame.parse danglingEscape = .error .truncatedEscape :=
  popped_frame_parses [.push danglingEscape, .popFrame] danglingEscape (by decide)

/-- A bad header loses nothing behind its first byte: the reader is where it would be had the
    header's other bytes come in on their own. -/
theorem push_bad_header {h : List UInt8} (hlen : h.length = 4) (hbad : headerDeclares h = none)
    (data : List UInt8) (done : List (List UInt8)) :
    (readerOf [] done).push (h ++ data) = (readerOf [] done).push (h.tail ++ data) := by
  match h, hlen with
  | [b, lenLo, lenHi, hdrCks], _ =>
    have hscan : smaFraming.scan ([b, lenLo, lenHi, hdrCks] ++ data)
        = smaFraming.scan ([lenLo, lenHi, hdrCks] ++ data) := smaFraming.scan_bad (by simp) hbad
    rw [push_readerOf smaFraming.waiting_nil, push_readerOf smaFraming.waiting_nil, scanned, scanned,
      List.nil_append, List.nil_append, List.tail_cons, hscan]

end FrameReader

/-- **The reader refines the scanner**, for every stream, however it is cut and whenever frames are
    popped: popped and queued frames together are the scanner's, which are slices of the stream in
    order, and what is in progress is what the scanner still waits on.  A header that fails costs
    its first byte only: the reader goes on as if the other three had come in alone. -/
theorem frameReader_refines_scan (calls : List FrameReader.Call) :
    (FrameReader.new.run calls).1 ++ (FrameReader.new.run calls).2.completed
        = (smaFraming.scan (FrameReader.fed calls)).1 ∧
      (FrameReader.new.run calls).2.inProgress = (smaFraming.scan (FrameReader.fed calls)).2 ∧
      (∃ gaps last, gaps.length = (smaFraming.scan (FrameReader.fed calls)).1.length ∧
        FrameReader.fed calls
          = (List.zipWith (· ++ ·) gaps (smaFraming.scan (FrameReader.fed calls)).1).flatten
            ++ last ++ (smaFraming.scan (FrameReader.fed calls)).2) ∧
      ∀ h data, (FrameReader.new.run calls).2.inProgress = [] → h.length = 4 →
        headerDeclares h = none →
          (FrameReader.new.run calls).2.push (h ++ data)
            = (FrameReader.new.run calls).2.push (h.tail ++ data) := by
  obtain ⟨hframes, hreader⟩ := FrameReader.run_readerOf calls smaFraming.waiting_nil []
  rw [List.nil_append] at hframes hreader
  refine ⟨hframes, congrArg FrameReader.inProgress hreader, smaFraming.scan_slices _, ?_⟩
  intro h data hempty hlen hbad
  have hwaits : (smaFraming.scan (FrameReader.fed calls)).2 = [] :=
    (congrArg FrameReader.inProgress hreader).symm.trans hempty
  rw [hwaits] at hreader
  rw [show FrameReader.new = readerOf [] [] from rfl, hreader]
  exact FrameReader.push_bad_header hlen hbad data _

/-! ## Built frames on a stream -/

/-- A built frame that fits the reader's cap declares its own length. -/
theorem wire_valid {m : Frame} (hlen : m.wire.length ≤ 2048) : smaFraming.Valid m.wire := by
  have hheader : ∃ rest, m.wire = m.toBuilder.l1Header (18 + rest.length) ++ rest := by
    obtain ⟨kind, localBt, destBt, control, payload⟩ := m
    cases kind with
    | l1Only => exact ⟨payload, rfl⟩
    | l2Wrapped =>
      refine ⟨frameDelimiter :: stuff (payload ++ writeU16 (Fcs.compute payload))
        ++ [frameDelimiter], (FrameBuilder.buildL2Wrapped_eq _).trans ?_⟩
      show FrameBuilder.l1Header _ _ ++ _ = FrameBuilder.l1Header _ _ ++ _
      congr 2
      simp only [List.length_append, List.length_cons, List.length_nil, Frame.toBuilder_payload]
      omega
  obtain ⟨rest, hwire⟩ := hheader
  have hsize : m.wire.length = 18 + rest.length := by
    rw [hwire, List.length_append, FrameBuilder.length_l1Header]
  have hread := readU16_len (n := 18 + rest.length) (by omega)
  rw [hsize] at hlen
  rw [hwire] at hsize ⊢
  refine ⟨⟨frameDelimiter, _, rfl, rfl⟩, ?_⟩
  rw [hsize]
  refine (headerDeclares_eq _ _ _).trans ?_
  rw [if_pos, hread]
  refine ⟨rfl, ?_, ?_⟩
  · rw [UInt16.le_iff_toNat_le, hread]
    exact Nat.le_add_right 18 _
  · rw [UInt16.le_iff_toNat_le, hread]
    exact hlen

/-- Frames on the wire, each behind a run of noise. -/
def streamOf : List (List UInt8 × Frame) → List UInt8
  | [] => []
  | (noise, m) :: rest => noise ++ m.wire ++ streamOf rest

/-- The scanner finds exactly the built frames. -/
theorem scan_streamOf {msgs : List (List UInt8 × Frame)} {last : List UInt8}
    (hnoise : ∀ m ∈ msgs, frameDelimiter ∉ m.1) (hlast : frameDelimiter ∉ last)
    (hlen : ∀ m ∈ msgs, m.2.wire.length ≤ 2048) :
    smaFraming.scan (streamOf msgs ++ last) = (msgs.map (·.2.wire), []) := by
  have hskip : ∀ {noise : List UInt8}, frameDelimiter ∉ noise →
      ∀ b ∈ noise, smaFraming.isStart b = false := by
    intro noise hnot b hb
    exact decide_eq_false fun heq => hnot (heq ▸ hb)
  induction msgs with
  | nil =>
    have hscan := smaFraming.scan_gap (hskip hlast) []
    rw [List.append_nil, smaFraming.scan_nil] at hscan
    exact hscan
  | cons m msgs ih =>
    obtain ⟨noise, m⟩ := m
    rw [List.forall_mem_cons] at hnoise hlen
    rw [streamOf, List.append_assoc,
      smaFraming.scan_gap_frame (hskip hnoise.1) (wire_valid hlen.1), ih hnoise.2 hlen.2]
    rfl

/-- Popped and queued frames of a stream of built frames, as the parser reads them. -/
theorem run_streamOf {msgs : List (List UInt8 × Frame)} {last : List UInt8}
    {calls : List FrameReader.Call}
    (hnoise : ∀ m ∈ msgs, frameDelimiter ∉ m.1) (hlast : frameDelimiter ∉ last)
    (hshape : ∀ m ∈ msgs, m.2.WellShaped) (hlen : ∀ m ∈ msgs, m.2.wire.length ≤ 2048)
    (hfed : FrameReader.fed calls = streamOf msgs ++ last) :
    ((FrameReader.new.run calls).1 ++ (FrameReader.new.run calls).2.completed).map Frame.parse
        = msgs.map (fun m => .ok m.2) ∧
      (FrameReader.new.run calls).2.inProgress = [] ∧
      (FrameReader.new.run calls).2.expectedLen = none := by
  obtain ⟨hframes, hreader⟩ := FrameReader.run_readerOf calls smaFraming.waiting_nil []
  have hscan := scan_streamOf hnoise hlast hlen
  rw [List.nil_append, List.nil_append, hfed, hscan] at hframes
  rw [List.nil_append, hfed, hscan] at hreader
  refine ⟨?_, congrArg FrameReader.inProgress hreader, congrArg FrameReader.expectedLen hreader⟩
  have hparse : ∀ m ∈ msgs, Frame.parse m.2.wire = .ok m.2 := fun m hm =>
    Frame.parse_wire (hshape m hm) (Nat.lt_of_le_of_lt (hlen m hm) (by decide))
  rw [show FrameReader.new = readerOf [] [] from rfl, hframes, List.map_map]
  exact List.map_congr_left hparse

/-- **Round trip over a stream.**  Well-shaped messages, built and sent with noise before, between
    and behind them, come out of the reader as they went in, however the stream is cut and whenever
    frames are popped: popped and queued frames together are the messages, in order, no frame is in
    progress, and further pops bring out all that is queued. -/
theorem wire_stream_round_trip {msgs : List (List UInt8 × Frame)} {last : List UInt8}
    {calls : List FrameReader.Call}
    (hnoise : ∀ m ∈ msgs, frameDelimiter ∉ m.1) (hlast : frameDelimiter ∉ last)
    (hshape : ∀ m ∈ msgs, m.2.WellShaped) (hlen : ∀ m ∈ msgs, m.2.wire.length ≤ 2048)
    (hfed : FrameReader.fed calls = streamOf msgs ++ last) :
    ((FrameReader.new.run calls).1 ++ (FrameReader.new.run calls).2.completed).map Frame.parse
        = msgs.map (fun m => .ok m.2) ∧
      (FrameReader.new.run calls).2.inProgress = [] ∧
      (FrameReader.new.run calls).2.expectedLen = none ∧
      ∀ pops ≥ msgs.length,
        (FrameReader.new.run (calls ++ List.replicate pops .popFrame)).1.map Frame.parse
          = msgs.map (fun m => .ok m.2) := by
  obtain ⟨hframes, hidle, hexp⟩ := run_streamOf hnoise hlast hshape hlen hfed
  refine ⟨hframes, hidle, hexp, fun pops hpops => ?_⟩
  have hdrained : (FrameReader.new.run (calls ++ List.replicate pops .popFrame)).2.completed
      = [] := by
    have hqueued := congrArg List.length hframes
    simp only [List.length_map, List.length_append] at hqueued
    rw [FrameReader.run_append]
    show (FrameReader.run _ _).2.completed = []
    rw [FrameReader.completed_pops]
    exact List.drop_of_length_le (by omega)
  have hfed' : FrameReader.fed (calls ++ List.replicate pops .popFrame) = streamOf msgs ++ last := by
    rw [FrameReader.fed_append, FrameReader.fed_pops, List.append_nil, hfed]
  have hall := (run_streamOf hnoise hlast hshape hlen hfed').1
  rw [hdrained, List.append_nil] at hall
  exact hall

/-- An L1-only message full of delimiters and an L2 one with a byte to stuff, noise around them. -/
def sampleMsgs : List (List UInt8 × Frame) :=
  [([0x01, 0x02], ⟨.l1Only, .fill 0x7E, .fill 0x7E, 0x7E7E, [0x7E, 0x7E]⟩),
    ([], ⟨.l2Wrapped, .fill 0x11, .fill 0xFF, 0x0001, btL2SigBytes ++ [0x7D, 0x00]⟩)]

theorem wire_stream_round_trip_sample :
    ((FrameReader.new.run [.push (streamOf sampleMsgs), .popFrame, .push [0x55]]).1 ++
        (FrameReader.new.run [.push (streamOf sampleMsgs), .popFrame, .push [0x55]]).2.completed).map
          Frame.parse = sampleMsgs.map (fun m => .ok m.2) ∧
      (FrameReader.new.run [.push (streamOf sampleMsgs), .popFrame, .push [0x55]]).2.inProgress
        = [] ∧
      (FrameReader.new.run [.push (streamOf sampleMsgs), .popFrame, .push [0x55]]).2.expectedLen
        = none ∧
      ∀ pops ≥ 2, (FrameReader.new.run ([.push (streamOf sampleMsgs), .popFrame, .push [0x55]]
          ++ List.replicate pops .popFrame)).1.map Frame.parse
        = sampleMsgs.map (fun m => .ok m.2) := by
  have hshape : ∀ m ∈ sampleMsgs, m.2.WellShaped := by
    intro m hm
    simp only [sampleMsgs, List.mem_cons, List.not_mem_nil, or_false] at hm
    rcases hm with rfl | rfl
    · exact ⟨by decide, by decide⟩
    · exact List.prefix_append _ _
  exact @wire_stream_round_trip sampleMsgs [0x55] _ (by decide) (by decide) hshape
    (by decide +kernel) rfl

end HassSma
