/-
  The RFCOMM socket over its whole life (`bluez-transport/src/rfcomm.rs`).

  A session sends, receives and closes in any order, `recv(2)` cuts the stream as it likes, and a call may
  end in an errno or a timeout in the middle of a frame.  None of this reaches the frames:

  1. **Simulation (`Drives`)** — whatever the socket does, its reader sees a run of pushes and pops fed
     with exactly the bytes that were taken from `recv(2)`.  One lemma for each operation
     (`drives_recvFrame` by induction over the results to come), then the run (`drives_run`).

  2. **Safety** — so the frames handed out and the frames still queued are those of the stream taken so
     far, errors or not (`run_refines_scan`).

  3. **Progress (`settled_or_progress`)** — a call on an open socket takes something from `recv(2)`, or
     hands out a frame, or there is nothing left.

  Together: what a peer sends comes out in order, nothing twice, and all of it if the session goes on
  receiving for long enough (`socket_carries_messages`).
-/
import HassSma.Bluez.Rfcomm

namespace HassSma

/-- The bytes of a result of `recv(2)`. -/
def RecvResult.data : RecvResult → List UInt8
  | .errno _ => []
  | .bytes data => data

/-- The stream that results of `recv(2)` bring in. -/
def bytesIn (results : List RecvResult) : List UInt8 := results.flatMap RecvResult.data

@[simp] theorem bytesIn_nil : bytesIn [] = [] := rfl

@[simp] theorem bytesIn_cons (result : RecvResult) (results : List RecvResult) :
    bytesIn (result :: results) = result.data ++ bytesIn results := rfl

theorem bytesIn_append (results results' : List RecvResult) :
    bytesIn (results ++ results') = bytesIn results ++ bytesIn results' := List.flatMap_append

namespace RfcommTransport

/-! ## Runs -/

/-- What a session does with its socket. -/
inductive Op where
  | send (data : List UInt8)
  | recv (timeoutMs : UInt64)
  | close
  deriving DecidableEq

/-- One operation: the frame it hands out, if it does, and the socket behind it. -/
def step (t : RfcommTransport) : Op → List (List UInt8) × RfcommTransport
  | .send data => ([], (Transport.sendFrame t data).2)
  | .recv timeoutMs =>
    ((Transport.recvFrame t timeoutMs).1.toOption.toList, (Transport.recvFrame t timeoutMs).2)
  | .close => ([], (Transport.close t).2)

def run : RfcommTransport → List Op → List (List UInt8) × RfcommTransport
  | t, [] => ([], t)
  | t, op :: ops => ((t.step op).1 ++ ((t.step op).2.run ops).1, ((t.step op).2.run ops).2)

/-! ## The reader behind the socket -/

/-- From `t` to `t'` the socket hands out `frames`: its reader is pushed and popped, and what goes in is
    what was taken from `recv(2)`. -/
def Drives (t : RfcommTransport) (frames : List (List UInt8)) (t' : RfcommTransport) : Prop :=
  ∃ taken calls, t.recvs = taken ++ t'.recvs ∧ FrameReader.fed calls = bytesIn taken ∧
    t.reader.run calls = (frames, t'.reader)

/-- Nothing is handed out while reader and stream stand still. -/
theorem Drives.still {t t' : RfcommTransport} (hrecvs : t'.recvs = t.recvs)
    (hreader : t'.reader = t.reader) : Drives t [] t' :=
  ⟨[], [], hrecvs.symm, rfl, by rw [hreader]; rfl⟩

theorem Drives.trans {t t' t'' : RfcommTransport} {frames frames' : List (List UInt8)}
    (h : Drives t frames t') (h' : Drives t' frames' t'') : Drives t (frames ++ frames') t'' := by
  obtain ⟨taken, calls, hrecvs, hfed, hrun⟩ := h
  obtain ⟨taken', calls', hrecvs', hfed', hrun'⟩ := h'
  refine ⟨taken ++ taken', calls ++ calls', ?_, ?_, ?_⟩
  · rw [hrecvs, hrecvs', List.append_assoc]
  · rw [FrameReader.fed_append, hfed, hfed', bytesIn_append]
  · rw [FrameReader.run_append, hrun, hrun']

/-- A result without bytes is taken, the reader stands still. -/
theorem drives_dry {t t' : RfcommTransport} {result : RecvResult} (hrecvs : t.recvs = result :: t'.recvs)
    (hdry : result.data = []) (hreader : t'.reader = t.reader) : Drives t [] t' :=
  ⟨[result], [], hrecvs, by rw [bytesIn_cons, hdry]; rfl, by rw [hreader]; rfl⟩

/-- A chunk is taken and the reader is looked at. -/
theorem drives_chunk {t t' : RfcommTransport} {chunk : List UInt8}
    (hrecvs : t.recvs = .bytes chunk :: t'.recvs)
    (hreader : t'.reader = (t.reader.push chunk).popFrame.2) :
    Drives t (t.reader.push chunk).popFrame.1.toList t' := by
  refine ⟨[.bytes chunk], [.push chunk, .popFrame], hrecvs, rfl, ?_⟩
  rw [FrameReader.run, FrameReader.run, FrameReader.run, List.append_nil, hreader]

/-- The loop, over the results to come. -/
theorem drives_recvLoop (timeoutMs : UInt64) (deadline : Option Nat) (recvs : List RecvResult)
    {t : RfcommTransport} (hrecvs : t.recvs = recvs) :
    Drives t (recvLoop timeoutMs deadline recvs t).1.toOption.toList
      (recvLoop timeoutMs deadline recvs t).2 := by
  induction recvs generalizing t with
  | nil =>
    unfold recvLoop
    cases t.fd <;> exact .still rfl rfl
  | cons result rest ih =>
    unfold recvLoop
    cases hfd : t.fd with
    | none => exact .still rfl rfl
    | some fd =>
      cases result with
      | errno e => exact drives_dry hrecvs rfl rfl
      | bytes chunk =>
        simp only
        by_cases hne : chunk = []
        · rw [if_pos hne]
          exact drives_dry hrecvs hne rfl
        · rw [if_neg hne]
          -- the socket with the chunk taken, whatever the clock shows
          have htaken : ∀ u : RfcommTransport, u.recvs = rest →
              u.reader = (t.reader.push chunk).popFrame.2 →
              Drives t (t.reader.push chunk).popFrame.1.toList u := by
            intro u hu hreader
            exact drives_chunk (hrecvs.trans (congrArg _ hu.symm)) hreader
          cases hpop : (t.reader.push chunk).popFrame.1 with
          | some f =>
            rw [hpop] at htaken
            exact htaken _ rfl rfl
          | none =>
            rw [hpop] at htaken
            simp only
            cases deadline with
            | none => exact (htaken _ rfl rfl).trans (ih rfl)
            | some d =>
              simp only
              split
              · exact htaken _ rfl rfl
              · exact (htaken _ rfl rfl).trans (ih rfl)

/-- **One call** drives the reader, whatever comes of it. -/
theorem drives_recvFrame (t : RfcommTransport) (timeoutMs : UInt64) :
    Drives t (Transport.recvFrame t timeoutMs).1.toOption.toList (Transport.recvFrame t timeoutMs).2 := by
  show Drives t (recvFrame t timeoutMs).1.toOption.toList (recvFrame t timeoutMs).2
  rw [recvFrame]
  cases hpop : t.reader.popFrame.1 with
  | some f =>
    refine ⟨[], [.popFrame], rfl, rfl, ?_⟩
    rw [FrameReader.run, FrameReader.run, List.append_nil, hpop]
    rfl
  | none =>
    simp only
    split
    · exact (Drives.still rfl rfl).trans (drives_recvLoop timeoutMs _ t.recvs (t := t.now.2) rfl)
    · exact drives_recvLoop timeoutMs none t.recvs rfl

theorem drives_sendFrame (t : RfcommTransport) (data : List UInt8) :
    Drives t [] (Transport.sendFrame t data).2 := by
  show Drives t [] (sendFrame t data).2
  unfold sendFrame
  split
  · exact .still rfl rfl
  · split <;> exact .still rfl rfl

theorem drives_step (t : RfcommTransport) (op : Op) : Drives t (t.step op).1 (t.step op).2 := by
  cases op with
  | send data => exact drives_sendFrame t data
  | recv timeoutMs => exact drives_recvFrame t timeoutMs
  | close => exact .still rfl rfl

theorem drives_run (t : RfcommTransport) (ops : List Op) : Drives t (t.run ops).1 (t.run ops).2 := by
  induction ops generalizing t with
  | nil => exact .still rfl rfl
  | cons op ops ih => exact (drives_step t op).trans (ih _)

/-- **The socket refines the scan**: what was handed out and what is queued are the frames of what has
    been taken from `recv(2)`, and the reader waits on what the scan waits on. -/
theorem run_refines_scan {t : RfcommTransport} (hnew : t.reader = .new) (ops : List Op) :
    ∃ taken, t.recvs = taken ++ (t.run ops).2.recvs ∧
      (t.run ops).1 ++ (t.run ops).2.reader.completed = (smaFraming.scan (bytesIn taken)).1 ∧
      (t.run ops).2.reader.inProgress = (smaFraming.scan (bytesIn taken)).2 := by
  obtain ⟨taken, calls, hrecvs, hfed, hrun⟩ := drives_run t ops
  obtain ⟨hframes, hreader⟩ := FrameReader.run_readerOf calls smaFraming.waiting_nil []
  rw [show readerOf [] [] = t.reader from hnew.symm, hrun, List.nil_append, List.nil_append, hfed]
    at hframes
  rw [show readerOf [] [] = t.reader from hnew.symm, hrun, List.nil_append, hfed] at hreader
  exact ⟨taken, hrecvs, hframes, congrArg FrameReader.inProgress hreader⟩

/-! ## Progress -/

/-- Nothing more will come out. -/
def Settled (t : RfcommTransport) : Prop := t.recvs = [] ∧ t.reader.completed = []

theorem Drives.recvs_le {t t' : RfcommTransport} {frames : List (List UInt8)} (h : Drives t frames t') :
    t'.recvs.length ≤ t.recvs.length := by
  obtain ⟨taken, -, hrecvs, -⟩ := h
  rw [hrecvs, List.length_append]
  omega

/-- The loop takes a result, if there is one. -/
theorem recvLoop_takes (timeoutMs : UInt64) (deadline : Option Nat) {result : RecvResult}
    {rest : List RecvResult} {t : RfcommTransport} (hopen : t.fd ≠ none) :
    (recvLoop timeoutMs deadline (result :: rest) t).2.recvs.length ≤ rest.length := by
  obtain ⟨fd, hfd⟩ := Option.ne_none_iff_exists'.mp hopen
  unfold recvLoop
  rw [hfd]
  cases result with
  | errno e => exact Nat.le_refl _
  | bytes chunk =>
    simp only
    split
    · exact Nat.le_refl _
    · split
      · exact Nat.le_refl _
      · split
        · exact (drives_recvLoop timeoutMs none rest rfl).recvs_le
        · split
          · exact Nat.le_refl _
          · exact (drives_recvLoop timeoutMs _ rest rfl).recvs_le

theorem completed_of_pop_none {r : FrameReader} (h : r.popFrame.1 = none) : r.completed = [] :=
  List.head?_eq_none_iff.mp h

/-- **A call on an open socket** takes a result of `recv(2)`, or hands out a frame, or there is nothing
    left, and nothing is. -/
theorem settled_or_progress {t : RfcommTransport} (hopen : t.fd ≠ none) (timeoutMs : UInt64) :
    Settled (t.step (.recv timeoutMs)).2 ∨
      (t.step (.recv timeoutMs)).2.recvs.length < t.recvs.length ∨ (t.step (.recv timeoutMs)).1 ≠ [] := by
  show Settled (recvFrame t timeoutMs).2 ∨ (recvFrame t timeoutMs).2.recvs.length < t.recvs.length ∨
    (recvFrame t timeoutMs).1.toOption.toList ≠ []
  rw [recvFrame]
  cases hpop : t.reader.popFrame.1 with
  | some f => exact .inr (.inr (List.cons_ne_nil f []))
  | none =>
    simp only
    cases hrecvs : t.recvs with
    | nil =>
      -- the loop gives up at once
      refine .inl ?_
      have hqueue := completed_of_pop_none hpop
      split
      · unfold recvLoop
        split <;> exact ⟨hrecvs, hqueue⟩
      · unfold recvLoop
        split <;> exact ⟨hrecvs, hqueue⟩
    | cons result rest =>
      refine .inr (.inl (Nat.lt_succ_of_le ?_))
      split
      · exact recvLoop_takes timeoutMs _ (t := t.now.2) hopen
      · exact recvLoop_takes timeoutMs none hopen

theorem recvLoop_fd (timeoutMs : UInt64) (deadline : Option Nat) (recvs : List RecvResult)
    (t : RfcommTransport) : (recvLoop timeoutMs deadline recvs t).2.fd = t.fd := by
  induction recvs generalizing t with
  | nil =>
    unfold recvLoop
    split <;> rfl
  | cons result rest ih =>
    unfold recvLoop
    split
    · rfl
    · split
      · rfl
      · split
        · rfl
        · simp only
          split
          · rfl
          · split
            · rw [ih]
            · split
              · rfl
              · rw [ih]
                rfl

/-- Only `close` closes. -/
theorem step_fd {t : RfcommTransport} {op : Op} (hop : op ≠ .close) : (t.step op).2.fd = t.fd := by
  cases op with
  | send data =>
    show (sendFrame t data).2.fd = t.fd
    unfold sendFrame
    split
    · rfl
    · split <;> rfl
  | recv timeoutMs =>
    show (recvFrame t timeoutMs).2.fd = t.fd
    unfold recvFrame
    simp only
    split
    · rfl
    · split <;> exact recvLoop_fd ..
  | close => exact absurd rfl hop

/-- A settled socket stays settled. -/
theorem Settled.run {t : RfcommTransport} (h : Settled t) (ops : List Op) : Settled (t.run ops).2 := by
  obtain ⟨taken, calls, hrecvs, hfed, hrun⟩ := drives_run t ops
  obtain ⟨rfl, hrest⟩ := List.append_eq_nil_iff.mp (hrecvs.symm.trans h.1)
  refine ⟨hrest, ?_⟩
  have hcalls : ∀ (calls : List FrameReader.Call) (r : FrameReader), FrameReader.fed calls = [] →
      r.completed = [] → (r.run calls).2.completed = [] := by
    intro calls
    induction calls with
    | nil => exact fun _ _ hr => hr
    | cons call calls ih =>
      intro r hcalls hr
      cases call with
      | push data =>
        obtain ⟨rfl, hrest⟩ := List.append_eq_nil_iff.mp hcalls
        exact ih r hrest hr
      | popFrame =>
        refine ih r.popFrame.2 hcalls ?_
        show r.completed.tail = []
        rw [hr]
        rfl
  have hqueue := hcalls calls t.reader hfed h.2
  rwa [hrun] at hqueue

def Op.isRecv : Op → Bool
  | .recv _ => true
  | _ => false

/-- Over a run that does not close: all is settled, or every call took or handed out something. -/
theorem run_progress {t : RfcommTransport} (hopen : t.fd ≠ none) {ops : List Op}
    (hops : .close ∉ ops) :
    Settled (t.run ops).2 ∨
      (ops.countP Op.isRecv) + (t.run ops).2.recvs.length ≤ t.recvs.length + (t.run ops).1.length := by
  induction ops generalizing t with
  | nil => exact .inr (by simp [run])
  | cons op ops ih =>
    rw [List.mem_cons, not_or] at hops
    have hnext : (t.step op).2.fd ≠ none := by rwa [step_fd (Ne.symm hops.1)]
    rcases ih hnext hops.2 with hsettled | hcount
    · exact .inl hsettled
    · have hle := (drives_step t op).recvs_le
      cases hrecv : op.isRecv with
      | false =>
        refine .inr ?_
        rw [List.countP_cons_of_neg (by simp [hrecv])]
        simp only [run, List.length_append]
        omega
      | true =>
        cases op with
        | send data => nomatch hrecv
        | close => nomatch hrecv
        | recv timeoutMs =>
          rcases settled_or_progress hopen timeoutMs with hsettled | hless | hframe
          · exact .inl (hsettled.run ops)
          · refine .inr ?_
            rw [List.countP_cons_of_pos hrecv]
            simp only [run, List.length_append]
            omega
          · refine .inr ?_
            have hpos := List.length_pos_iff.mpr hframe
            rw [List.countP_cons_of_pos hrecv]
            simp only [run, List.length_append]
            omega

/-! ## Messages over a socket -/

/-- **What a peer sends comes out.**  Over a fresh socket whose stream is built frames with noise around
    them, in chunks of any size and with errors anywhere, any run of operations hands out the messages
    in order from the first on, none twice.  If the socket is open and stays so, then all of them, as
    soon as there is a receive for each message and each result of `recv(2)`. -/
theorem socket_carries_messages {msgs : List (List UInt8 × Frame)} {last : List UInt8}
    {t : RfcommTransport} (hnew : t.reader = .new) (hbytes : bytesIn t.recvs = streamOf msgs ++ last)
    (hnoise : ∀ m ∈ msgs, frameDelimiter ∉ m.1) (hlast : frameDelimiter ∉ last)
    (hshape : ∀ m ∈ msgs, m.2.WellShaped) (hlen : ∀ m ∈ msgs, m.2.wire.length ≤ 2048)
    (ops : List Op) :
    (t.run ops).1.map Frame.parse <+: msgs.map (fun m => .ok m.2) ∧
      (t.fd ≠ none → .close ∉ ops → t.recvs.length + msgs.length ≤ ops.countP Op.isRecv →
        (t.run ops).1.map Frame.parse = msgs.map (fun m => .ok m.2)) := by
  obtain ⟨taken, hrecvs, hframes, -⟩ := run_refines_scan hnew ops
  have hscan : (smaFraming.scan (bytesIn t.recvs)).1 = msgs.map (·.2.wire) := by
    rw [hbytes, scan_streamOf hnoise hlast hlen]
  have hparse : (msgs.map (·.2.wire)).map Frame.parse = msgs.map (fun m => .ok m.2) := by
    rw [List.map_map]
    exact List.map_congr_left fun m hm =>
      Frame.parse_wire (hshape m hm) (Nat.lt_of_le_of_lt (hlen m hm) (by decide))
  have hfront : (t.run ops).1 <+: msgs.map (·.2.wire) := by
    rw [← hscan, hrecvs, bytesIn_append, smaFraming.scan_append, ← hframes, List.append_assoc]
    exact List.prefix_append _ _
  constructor
  · rw [← hparse]
    exact hfront.map Frame.parse
  · intro hopen hops hcalls
    rw [← hparse]
    congr 1
    rcases run_progress hopen hops with ⟨hrest, hqueue⟩ | hcount
    · rw [hqueue, List.append_nil] at hframes
      rw [hrest, List.append_nil] at hrecvs
      rw [hframes, ← hrecvs, hscan]
    · have hle := hfront.length_le
      rw [List.length_map] at hle
      refine hfront.eq_of_length ?_
      rw [List.length_map]
      omega

end RfcommTransport

/-- Two messages in three chunks, with an expired receive timeout in the middle of the first. -/
def sampleSocket : RfcommTransport :=
  ⟨some 3, .new,
    [.bytes ((streamOf sampleMsgs).take 20), .errno eagain, .bytes ((streamOf sampleMsgs).drop 20),
      .bytes [0x55]],
    [], fun _ => 0, 0⟩

theorem socket_carries_messages_sample :
    (sampleSocket.run (List.replicate 6 (.recv 100))).1.map Frame.parse
      = sampleMsgs.map (fun m => .ok m.2) := by
  have hshape : ∀ m ∈ sampleMsgs, m.2.WellShaped := by
    intro m hm
    simp only [sampleMsgs, List.mem_cons, List.not_mem_nil, or_false] at hm
    rcases hm with rfl | rfl
    · exact ⟨by decide, by decide⟩
    · exact List.prefix_append _ _
  have hbytes : bytesIn sampleSocket.recvs = streamOf sampleMsgs ++ [0x55] := by
    show (streamOf sampleMsgs).take 20 ++ ([] ++ ((streamOf sampleMsgs).drop 20 ++ ([0x55] ++ []))) = _
    rw [List.nil_append, List.append_nil, ← List.append_assoc, List.take_append_drop]
  exact (@RfcommTransport.socket_carries_messages sampleMsgs [0x55] sampleSocket rfl hbytes (by decide)
    (by decide) hshape (by decide +kernel) (List.replicate 6 (.recv 100))).2
    (Option.some_ne_none 3) (by decide) (by decide)

end HassSma
