/-
  Event logs: records and their reassembly (`query_event_log_for_device` in
  `inverter-client/src/session.rs`, `parse_event_log_records` in `values.rs`).

  A reply fragment is a 12-byte echo of the request and a run of 24-byte records.  The session puts
  the bodies of all fragments one behind the other, echoes included; the parser takes off one echo
  and reads 24-byte records from there, up to a record without id, code and time.

  1. **The parser** — `parseEventRecords_eq_iff`: it reads `rs` exactly when the bytes are those of `rs`
     and then a place where it stops.
  2. **The aggregator** — `run_collectFragments`, by induction on the fragments: every body, in order,
     up to the fragment without records.
  3. **Together** — `event_log_reassembled_iff`: the records come out as they went in exactly when
     the packet id fits 15 bits and there is one data fragment, or what stands behind the first
     one's records happens to begin with the records of the others and then 12 zero bytes.
-/
import HassSma.Client.Receive

namespace HassSma

open Bytes Fallible Polling

/-! ## Records -/

/-- An event-log entry. -/
structure EventRecord where
  entryId : UInt32
  timestamp : UInt32
  eventCode : UInt32
  deviceId : UInt32
  param1 : UInt32
  param2 : UInt32
  deriving DecidableEq, Repr

namespace EventRecord

/-- The record at the front of `r`. -/
def read (r : List UInt8) : EventRecord where
  entryId := readU32 (slice r 0 4)
  timestamp := readU32 (slice r 4 8)
  eventCode := readU32 (slice r 8 12)
  deviceId := readU32 (slice r 12 16)
  param1 := readU32 (slice r 16 20)
  param2 := readU32 (slice r 20 24)

/-- The 24 bytes of a record. -/
def encode (r : EventRecord) : List UInt8 :=
  writeU32 r.entryId ++ writeU32 r.timestamp ++ writeU32 r.eventCode ++ writeU32 r.deviceId
    ++ writeU32 r.param1 ++ writeU32 r.param2

/-- No id, no code, no time: the record is padding. -/
def IsPadding (r : EventRecord) : Prop := r.entryId = 0 ∧ r.eventCode = 0 ∧ r.timestamp = 0

instance (r : EventRecord) : Decidable r.IsPadding :=
  inferInstanceAs (Decidable (r.entryId = 0 ∧ r.eventCode = 0 ∧ r.timestamp = 0))

@[simp] theorem length_encode (r : EventRecord) : r.encode.length = 24 := by
  simp only [encode, List.length_append, length_writeU32]

theorem read_encode_append (r : EventRecord) (tail : List UInt8) : read (r.encode ++ tail) = r := by
  have h0 : slice (r.encode ++ tail) 0 4 = writeU32 r.entryId := rfl
  have h4 : slice (r.encode ++ tail) 4 8 = writeU32 r.timestamp := rfl
  have h8 : slice (r.encode ++ tail) 8 12 = writeU32 r.eventCode := rfl
  have h12 : slice (r.encode ++ tail) 12 16 = writeU32 r.deviceId := rfl
  have h16 : slice (r.encode ++ tail) 16 20 = writeU32 r.param1 := rfl
  have h20 : slice (r.encode ++ tail) 20 24 = writeU32 r.param2 := rfl
  rw [read, h0, h4, h8, h12, h16, h20]
  simp only [readU32_writeU32]

theorem encode_read {d : List UInt8} (h : 24 ≤ d.length) : (read d).encode = d.take 24 := by
  have hword : ∀ {i}, i + 4 ≤ 24 → writeU32 (readU32 (slice d i (i + 4))) = slice d i (i + 4) := by
    intro i hi
    apply writeU32_readU32
    rw [length_slice]
    omega
  rw [encode, read, hword (i := 0) (by omega), hword (i := 4) (by omega), hword (i := 8) (by omega),
    hword (i := 12) (by omega), hword (i := 16) (by omega), hword (i := 20) (by omega)]
  rw [slice_append_slice d (by omega) (by omega), slice_append_slice d (by omega) (by omega),
    slice_append_slice d (by omega) (by omega), slice_append_slice d (by omega) (by omega),
    slice_append_slice d (by omega) (by omega)]
  rfl

/-- A padding record is one that starts with 12 zero bytes. -/
theorem isPadding_read_iff {d : List UInt8} (h : 24 ≤ d.length) :
    (read d).IsPadding ↔ List.replicate 12 0 <+: d := by
  constructor
  · rintro ⟨hid, hcode, htime⟩
    have hbytes := encode_read h
    rw [encode, hid, hcode, htime] at hbytes
    refine List.IsPrefix.trans ?_ (List.take_prefix 24 d)
    rw [← hbytes]
    simp only [List.append_assoc]
    exact ⟨_, rfl⟩
  · rintro ⟨t, rfl⟩
    exact ⟨rfl, rfl, rfl⟩

end EventRecord

/-! ## The parser -/

/-- The records of a record region. -/
def parseEventRecords (payload : List UInt8) : List EventRecord :=
  if payload.length < 24 then []
  else if (EventRecord.read payload).IsPadding then []
  else EventRecord.read payload :: parseEventRecords (payload.drop 24)
termination_by payload.length
decreasing_by simp only [List.length_drop]; omega

def parseEventLogRecords (body : List UInt8) : List EventRecord :=
  if body.length < 12 then [] else parseEventRecords (body.drop 12)

/-- The parser reads no further record here. -/
def Stops (tail : List UInt8) : Prop := tail.length < 24 ∨ List.replicate 12 0 <+: tail

theorem parseEventRecords_stop {payload : List UInt8} (h : Stops payload) :
    parseEventRecords payload = [] := by
  rw [parseEventRecords]
  rcases Nat.lt_or_ge payload.length 24 with hlen | hlen
  · rw [if_pos hlen]
  · rw [if_neg (Nat.not_lt.mpr hlen),
      if_pos ((EventRecord.isPadding_read_iff hlen).mpr (h.resolve_left (Nat.not_lt.mpr hlen)))]

theorem parseEventRecords_cons {r : EventRecord} (hr : ¬ r.IsPadding) (tail : List UInt8) :
    parseEventRecords (r.encode ++ tail) = r :: parseEventRecords tail := by
  have hlen : ¬ (r.encode ++ tail).length < 24 := by
    rw [List.length_append, EventRecord.length_encode]
    omega
  rw [parseEventRecords, if_neg hlen, EventRecord.read_encode_append, if_neg hr,
    List.drop_left' r.length_encode]

/-- Records in front are read, then the parser goes on behind them. -/
theorem parseEventRecords_append {rs : List EventRecord} (hrs : ∀ r ∈ rs, ¬ r.IsPadding)
    (tail : List UInt8) :
    parseEventRecords (rs.flatMap EventRecord.encode ++ tail) = rs ++ parseEventRecords tail := by
  induction rs with
  | nil => rfl
  | cons r rs ih =>
    rw [List.forall_mem_cons] at hrs
    rw [List.flatMap_cons, List.append_assoc, parseEventRecords_cons hrs.1, ih hrs.2,
      List.cons_append]

/-- **What the parser reads**: the bytes are those of the records, and then it stops. -/
theorem parseEventRecords_eq_iff {payload : List UInt8} {rs : List EventRecord}
    (hrs : ∀ r ∈ rs, ¬ r.IsPadding) :
    parseEventRecords payload = rs ↔
      ∃ tail, payload = rs.flatMap EventRecord.encode ++ tail ∧ Stops tail := by
  constructor
  · intro h
    subst h
    fun_induction parseEventRecords payload with
    | case1 payload hlen => exact ⟨payload, rfl, .inl hlen⟩
    | case2 payload hlen hpad =>
      exact ⟨payload, rfl, .inr ((EventRecord.isPadding_read_iff (by omega)).mp hpad)⟩
    | case3 payload hlen hpad ih =>
      obtain ⟨tail, hdrop, hstop⟩ := ih fun r hr => hrs r (List.mem_cons_of_mem _ hr)
      refine ⟨tail, ?_, hstop⟩
      rw [List.flatMap_cons, List.append_assoc, ← hdrop,
        EventRecord.encode_read (Nat.not_lt.mp hlen), List.take_append_drop]
  · rintro ⟨tail, rfl, hstop⟩
    rw [parseEventRecords_append hrs, parseEventRecords_stop hstop, List.append_nil]

/-! ## The aggregator -/

namespace Session

variable {T : Type} [Transport T]

/-- The frame an event-log query puts on the wire. -/
def eventLogWire (s : Session T) (susyId : UInt16) (serial startUnix endUnix : UInt32) :
    List UInt8 :=
  l2Wire s.cfg.localBt
    (buildEventLogBody (succPktId s.pcktid) s.appSerial susyId serial startUnix endUnix)

omit [Transport T] in
theorem l2FieldOf_eventLogWire (s : Session T) (susyId : UInt16)
    (serial startUnix endUnix : UInt32) :
    l2FieldOf (s.eventLogWire susyId serial startUnix endUnix)
      = some (succPktId s.pcktid ||| appPacketBit) :=
  l2FieldOf_l2Wire s.cfg.localBt (.eventLogQuery (succPktId s.pcktid) s.appSerial susyId serial)
    (by simp only [List.length_append, length_writeU32]; omega)

/-- An event-log query that does not go out. -/
theorem run_queryEventLogForDevice_unsent {s : Session T} (h : s.state = .loggedIn) (susyId : UInt16)
    (serial startUnix endUnix : UInt32) {e : TransportError} {t : T}
    (hsend : Transport.sendFrame s.transport (s.eventLogWire susyId serial startUnix endUnix)
      = (.error e, t)) :
    (queryEventLogForDevice susyId serial startUnix endUnix).run s
      = .error (.transport e) { s.advance with transport := t } := by
  have hsent : (sendFrame (s.eventLogWire susyId serial startUnix endUnix)).run s.advance
      = .error (.transport e) { s.advance with transport := t } := by
    rw [run_sendFrame, show s.advance.transport = s.transport from rfl, hsend]
  rw [queryEventLogForDevice, bind_of_ok (EStateM.run_get s), bind_of_ok (run_ensure_of h _ s),
    bind_of_ok (run_nextPcktid s)]
  exact bind_of_error hsent _

/-- An event-log query on a logged-in session: one frame out, then the fragments. -/
theorem run_queryEventLogForDevice {s : Session T} (h : s.state = .loggedIn) (susyId : UInt16)
    (serial startUnix endUnix : UInt32) {n : Nat} {t : T}
    (hsend : Transport.sendFrame s.transport (s.eventLogWire susyId serial startUnix endUnix)
      = (.ok n, t)) :
    (queryEventLogForDevice susyId serial startUnix endUnix).run s
      = (collectFragments (succPktId s.pcktid) 32 []).run { s.advance with transport := t } := by
  have hsent : (sendFrame (s.eventLogWire susyId serial startUnix endUnix)).run s.advance
      = .ok n { s.advance with transport := t } := by
    rw [run_sendFrame, show s.advance.transport = s.transport from rfl, hsend]
  rw [queryEventLogForDevice, bind_of_ok (EStateM.run_get s), bind_of_ok (run_ensure_of h _ s),
    bind_of_ok (run_nextPcktid s)]
  exact bind_of_ok hsent _

/-- The next frame, if it carries the packet id, is what the receive loop returns. -/
theorem run_recvL2WithPktId_next {s : Session T} {pktId : UInt16} {raw : List UInt8} {t : T}
    {reply : L2Reply} (hnext : s.frames s.transport = (.ok raw, t))
    (hmatch : pktIdMatch pktId raw = some (raw, reply)) (phase : String) :
    (recvL2WithPktId pktId phase).run s = .ok (raw, reply) { s with transport := t } := by
  have hdel : Delivers s.frames s.transport ([] ++ [raw]) t := .cons hnext (.nil t)
  rw [run_recvL2WithPktId, poll_found hdel (by simp) hmatch (by decide)]
  rfl

/-- A frame taken as a fragment with this body. -/
def FragmentOf (pktId : UInt16) (raw body : List UInt8) : Prop :=
  ∃ reply : L2Reply, pktIdMatch pktId raw = some (raw, reply) ∧ reply.errorCode = 0 ∧
    reply.body = body

/-- A fragment with records is added, and the loop goes on. -/
theorem run_collectFragments_more {s : Session T} {pktId : UInt16} {raw body : List UInt8} {t : T}
    (hnext : s.frames s.transport = (.ok raw, t)) (hfrag : FragmentOf pktId raw body)
    (hbody : 12 < body.length) (n : Nat) (aggregated : List UInt8) :
    (collectFragments pktId (n + 1) aggregated).run s
      = (collectFragments pktId n (aggregated ++ body)).run { s with transport := t } := by
  obtain ⟨reply, hmatch, hcode, rfl⟩ := hfrag
  rw [collectFragments, bind_of_ok (run_recvL2WithPktId_next hnext hmatch _)]
  simp only
  rw [if_neg (not_not_intro hcode), if_neg (by omega), if_neg (by omega)]

/-- A fragment with nothing behind its echo is added, and ends the loop. -/
theorem run_collectFragments_last {s : Session T} {pktId : UInt16} {raw body : List UInt8} {t : T}
    (hnext : s.frames s.transport = (.ok raw, t)) (hfrag : FragmentOf pktId raw body)
    (hbody : body.length ≤ 12) (n : Nat) (aggregated : List UInt8) :
    (collectFragments pktId (n + 1) aggregated).run s
      = .ok (aggregated ++ body) { s with transport := t } := by
  obtain ⟨reply, hmatch, hcode, rfl⟩ := hfrag
  rw [collectFragments, bind_of_ok (run_recvL2WithPktId_next hnext hmatch _)]
  simp only
  rw [if_neg (not_not_intro hcode)]
  rcases Nat.lt_or_eq_of_le hbody with hshort | hecho
  · rw [if_pos hshort]
    rfl
  · rw [if_neg (by omega), if_pos hecho]
    rfl

/-- A run of fragments with records: all of them are added, and as many attempts are used up. -/
theorem run_collectFragments_records {pktId : UInt16} {frags : List (List UInt8 × List UInt8)}
    (hfrags : ∀ f ∈ frags, FragmentOf pktId f.1 f.2 ∧ 12 < f.2.length) {s : Session T} {t : T}
    (hdel : Delivers s.frames s.transport (frags.map Prod.fst) t) (n : Nat)
    (aggregated : List UInt8) :
    (collectFragments pktId (frags.length + n) aggregated).run s
      = (collectFragments pktId n (aggregated ++ (frags.map Prod.snd).flatten)).run
          { s with transport := t } := by
  induction frags generalizing s aggregated with
  | nil =>
    cases hdel
    rw [List.length_nil, Nat.zero_add, List.map_nil, List.flatten_nil, List.append_nil]
  | cons f frags ih =>
    rw [List.forall_mem_cons] at hfrags
    cases hdel with
    | @cons _ t₁ _ _ _ hnext hrest =>
      rw [List.length_cons, Nat.add_right_comm,
        run_collectFragments_more hnext hfrags.1.1 hfrags.1.2,
        ih hfrags.2 (s := { s with transport := t₁ }) hrest, List.map_cons, List.flatten_cons,
        List.append_assoc]

/-- **The aggregator** returns the bodies of all fragments, echoes included, up to the first one that
    has nothing behind its echo. -/
theorem run_collectFragments {pktId : UInt16} {frags : List (List UInt8 × List UInt8)}
    {raw echo : List UInt8} {n : Nat} (hn : frags.length < n)
    (hfrags : ∀ f ∈ frags, FragmentOf pktId f.1 f.2 ∧ 12 < f.2.length)
    (hlast : FragmentOf pktId raw echo) (hecho : echo.length ≤ 12) {s : Session T} {t : T}
    (hdel : Delivers s.frames s.transport (frags.map Prod.fst ++ [raw]) t)
    (aggregated : List UInt8) :
    (collectFragments pktId n aggregated).run s
      = .ok (aggregated ++ (frags.map Prod.snd).flatten ++ echo) { s with transport := t } := by
  obtain ⟨k, rfl⟩ := Nat.exists_eq_add_of_lt hn
  obtain ⟨t₁, hrecords, hend⟩ := hdel.split
  rw [Nat.add_assoc, run_collectFragments_records hfrags hrecords]
  cases hend with
  | cons hnext hnil =>
    cases hnil
    rw [run_collectFragments_last (s := { s with transport := t₁ }) hnext hlast hecho]

/-! ## Together -/

/-- A data fragment of an event-log reply: the echo, and one or more records. -/
structure Fragment where
  echo : List UInt8
  records : List EventRecord
  echo_length : echo.length = 12
  records_ne : records ≠ []
  not_padding : ∀ r ∈ records, ¬ r.IsPadding

namespace Fragment

def body (f : Fragment) : List UInt8 := f.echo ++ f.records.flatMap EventRecord.encode

theorem length_body (f : Fragment) : 12 < f.body.length := by
  obtain ⟨r, rs, hrs⟩ := List.exists_cons_of_ne_nil f.records_ne
  rw [body, List.length_append, f.echo_length, hrs, List.flatMap_cons, List.length_append,
    EventRecord.length_encode]
  omega

end Fragment

/-- All records of the fragments, in order. -/
def allRecords (frags : List Fragment) : List EventRecord := frags.flatMap Fragment.records

/-- A frame with the packet id of the request (the low 15 bits of its field), no error, and this
    body. -/
def ReplyTo (request raw body : List UInt8) : Prop :=
  (l2FieldOf raw).map wirePktId = (l2FieldOf request).map wirePktId ∧
    ∃ hdr, l2Of raw = some (hdr, body) ∧ hdr.errorCode = 0

/-- The inverter answers an event-log query: the frame goes out, and frames come in that carry the
    query's packet id and no error, first those of the data fragments, then a bare echo. -/
structure EventLogReply (s : Session T) (susyId : UInt16) (serial startUnix endUnix : UInt32)
    (frags : List Fragment) (echo : List UInt8) : Prop where
  delivers : ∃ n t t' raws last,
    Transport.sendFrame s.transport (s.eventLogWire susyId serial startUnix endUnix) = (.ok n, t) ∧
      Delivers s.frames t (raws ++ [last]) t' ∧
      List.Forall₂ (ReplyTo (s.eventLogWire susyId serial startUnix endUnix)) raws
        (frags.map Fragment.body) ∧
      ReplyTo (s.eventLogWire susyId serial startUnix endUnix) last echo
  count : 1 ≤ frags.length ∧ frags.length ≤ 31
  echo_length : echo.length = 12

/-- A frame with the query's id is a fragment to the session, as long as the id fits 15 bits. -/
theorem fragmentOf_of_replyTo {pktId : UInt16} (hid : pktId.toNat < 32768)
    {request raw body : List UInt8} (hrequest : l2FieldOf request = some (pktId ||| appPacketBit))
    (h : ReplyTo request raw body) : FragmentOf pktId raw body := by
  obtain ⟨hsame, hdr, hl2, hcode⟩ := h
  rw [hrequest, Option.map_some, wirePktId_or] at hsame
  obtain ⟨field, hfield, hlow⟩ := Option.map_eq_some_iff.mp hsame
  have hpkt : hdr.pktId = pktId := by
    rw [pktId_of_field hl2 hfield, hlow, wirePktId_eq_iff]
    exact hid
  exact ⟨replyOf hdr body, pktIdMatch_eq_some.mpr ⟨rfl, hdr, body, hl2, hpkt, rfl⟩, hcode, rfl⟩

/-- With a large id no fragment is taken. -/
theorem collectFragments_not_ok_of_large {pktId : UInt16} (hid : 32768 ≤ pktId.toNat) (n : Nat)
    (aggregated out : List UInt8) (s : Session T) :
    value ((collectFragments pktId (n + 1) aggregated).run s) ≠ .ok out := by
  intro hvalue
  cases hrun : (collectFragments pktId (n + 1) aggregated).run s with
  | error e s' => rw [hrun] at hvalue; nomatch hvalue
  | ok out' s' =>
    rw [collectFragments] at hrun
    obtain ⟨p, s₁, hrecv, -⟩ := bind_eq_ok.mp hrun
    rw [run_recvL2WithPktId] at hrecv
    obtain ⟨t, hpoll, -⟩ := polled_eq_ok.mp hrecv
    obtain ⟨-, raw, -, -, -, hmatch⟩ := poll_eq_ok_iff.mp hpoll
    rw [pktIdMatch_eq_none_of_large hid] at hmatch
    nomatch hmatch

/-- What stands behind the records of the first fragment in the aggregated bytes. -/
def behindFirst (frags : List Fragment) (echo : List UInt8) : List UInt8 :=
  (frags.tail.map Fragment.body).flatten ++ echo

/-- What the session returns on such a reply: the bodies of all fragments and the bare echo. -/
theorem value_of_eventLogReply {s : Session T} (h : s.state = .loggedIn) {susyId : UInt16}
    {serial startUnix endUnix : UInt32} {frags : List Fragment} {echo : List UInt8}
    (hreply : EventLogReply s susyId serial startUnix endUnix frags echo)
    (hid : (succPktId s.pcktid).toNat < 32768) :
    value ((queryEventLogForDevice susyId serial startUnix endUnix).run s)
      = .ok ((frags.map Fragment.body).flatten ++ echo) := by
  obtain ⟨⟨n, t, t', raws, last, hsend, hdel, hall, hlast⟩, ⟨-, hmax⟩, hecho⟩ := hreply
  have hfield := l2FieldOf_eventLogWire s susyId serial startUnix endUnix
  obtain ⟨hlen, hzip⟩ := List.forall₂_iff_zip.mp hall
  have hraws : (raws.zip (frags.map Fragment.body)).map Prod.fst = raws :=
    List.map_fst_zip hlen.le
  have hbodies : (raws.zip (frags.map Fragment.body)).map Prod.snd = frags.map Fragment.body :=
    List.map_snd_zip hlen.ge
  have hfrags : ∀ p ∈ raws.zip (frags.map Fragment.body),
      FragmentOf (succPktId s.pcktid) p.1 p.2 ∧ 12 < p.2.length := by
    rintro ⟨raw, body⟩ hp
    obtain ⟨f, -, rfl⟩ := List.mem_map.mp (List.of_mem_zip hp).2
    exact ⟨fragmentOf_of_replyTo hid hfield (hzip hp), f.length_body⟩
  have hcount : (raws.zip (frags.map Fragment.body)).length < 32 := by
    rw [List.length_zip, hlen, List.length_map, Nat.min_self]
    omega
  have hrun := run_collectFragments hcount hfrags (fragmentOf_of_replyTo hid hfield hlast) hecho.le
    (s := { s.advance with transport := t }) (by rw [hraws]; exact hdel) []
  rw [run_queryEventLogForDevice h susyId serial startUnix endUnix hsend, hrun, hbodies,
    List.nil_append]
  rfl

/-- The records of the first fragment are read; the parser goes on behind them. -/
theorem parse_aggregated (f : Fragment) (frags : List Fragment) (echo : List UInt8) :
    parseEventLogRecords (((f :: frags).map Fragment.body).flatten ++ echo)
      = f.records ++ parseEventRecords (behindFirst (f :: frags) echo) := by
  have hbytes : ((f :: frags).map Fragment.body).flatten ++ echo
      = f.echo ++ (f.records.flatMap EventRecord.encode ++ behindFirst (f :: frags) echo) := by
    rw [List.map_cons, List.flatten_cons, Fragment.body, behindFirst, List.tail_cons]
    simp only [List.append_assoc]
  have hlen : ¬ (((f :: frags).map Fragment.body).flatten ++ echo).length < 12 := by
    rw [hbytes, List.length_append, f.echo_length]
    omega
  rw [parseEventLogRecords, if_neg hlen, hbytes, List.drop_left' f.echo_length,
    parseEventRecords_append f.not_padding]

theorem length_bodies (frags : List Fragment) :
    ((frags.map Fragment.body).flatten).length
      = 12 * frags.length + ((allRecords frags).flatMap EventRecord.encode).length := by
  induction frags with
  | nil => rfl
  | cons f frags ih =>
    have hrecords : allRecords (f :: frags) = f.records ++ allRecords frags := List.flatMap_cons
    rw [List.map_cons, List.flatten_cons, List.length_append, ih, Fragment.body, hrecords,
      List.flatMap_append, List.length_append, List.length_append, f.echo_length,
      List.length_cons]
    omega

/-- Behind the first fragment the parser finds the other records exactly if there are no other
    fragments, or the echoes in between happen not to matter. -/
theorem parse_behindFirst_iff (f : Fragment) (frags : List Fragment) {echo : List UInt8}
    (hecho : echo.length = 12) :
    parseEventRecords (behindFirst (f :: frags) echo) = allRecords frags ↔
      (f :: frags).length = 1 ∨
        (allRecords frags).flatMap EventRecord.encode ++ List.replicate 12 0
          <+: behindFirst (f :: frags) echo := by
  have hpad : ∀ r ∈ allRecords frags, ¬ r.IsPadding := by
    intro r hr
    obtain ⟨g, -, hg⟩ := List.mem_flatMap.mp hr
    exact g.not_padding r hg
  have hlen : (behindFirst (f :: frags) echo).length
      = 12 * frags.length + ((allRecords frags).flatMap EventRecord.encode).length + 12 := by
    rw [behindFirst, List.tail_cons, List.length_append, length_bodies, hecho]
  rw [parseEventRecords_eq_iff hpad]
  constructor
  · rintro ⟨tail, htail, hstop⟩
    rcases hstop with hshort | hzeros
    · left
      rw [htail, List.length_append] at hlen
      rw [List.length_cons]
      omega
    · right
      obtain ⟨t, rfl⟩ := hzeros
      exact ⟨t, by rw [htail, List.append_assoc]⟩
  · rintro (hone | ⟨t, ht⟩)
    · obtain rfl := List.eq_nil_of_length_eq_zero (Nat.succ.inj hone)
      refine ⟨echo, rfl, .inl ?_⟩
      rw [hecho]
      decide
    · exact ⟨List.replicate 12 0 ++ t, by rw [← ht, List.append_assoc], .inr (List.prefix_append _ _)⟩

/-- **When an event log is reassembled.**  Every fragment brings its echo into the aggregated bytes
    and the parser takes off only one.  So the records come out as they went in exactly when the
    packet id fits 15 bits, and there is one data fragment, or the bytes behind the first
    fragment's records start with the records of the other fragments and then 12 zero bytes. -/
theorem event_log_reassembled_iff {s : Session T} (h : s.state = .loggedIn) {susyId : UInt16}
    {serial startUnix endUnix : UInt32} {frags : List Fragment} {echo : List UInt8}
    (hreply : EventLogReply s susyId serial startUnix endUnix frags echo) :
    (∃ aggregated,
        value ((queryEventLogForDevice susyId serial startUnix endUnix).run s) = .ok aggregated ∧
        parseEventLogRecords aggregated = allRecords frags) ↔
      (succPktId s.pcktid).toNat < 32768 ∧
        (frags.length = 1 ∨
          (allRecords frags.tail).flatMap EventRecord.encode ++ List.replicate 12 0
            <+: behindFirst frags echo) := by
  rcases Nat.lt_or_ge (succPktId s.pcktid).toNat 32768 with hid | hlarge
  · obtain ⟨f, frags, rfl⟩ := List.exists_cons_of_length_pos hreply.count.1
    rw [value_of_eventLogReply h hreply hid, and_iff_right hid, List.tail_cons,
      ← parse_behindFirst_iff f frags hreply.echo_length]
    constructor
    · rintro ⟨aggregated, hvalue, hparse⟩
      obtain rfl := Except.ok.inj hvalue
      rw [parse_aggregated] at hparse
      exact List.append_cancel_left hparse
    · intro hparse
      refine ⟨_, rfl, ?_⟩
      rw [parse_aggregated, hparse]
      rfl
  · constructor
    · rintro ⟨aggregated, hvalue, -⟩
      obtain ⟨n, t, t', raws, last, hsend, -⟩ := hreply.delivers
      rw [run_queryEventLogForDevice h susyId serial startUnix endUnix hsend] at hvalue
      exact absurd hvalue (collectFragments_not_ok_of_large hlarge 31 [] aggregated _)
    · rintro ⟨hid, -⟩
      omega

/-! ## Examples over the mock -/

theorem replyTo_mock (pcktid : UInt16) {request body : List UInt8} (hlen : body.length ≤ 32000)
    (hrequest : l2FieldOf request = some (succPktId pcktid ||| appPacketBit)) :
    ReplyTo request (mockReply 7 (succPktId pcktid) body) body := by
  refine ⟨?_, _, l2Of_mockReply 7 _ hlen, rfl⟩
  rw [hrequest, mockReply, l2FieldOf_l2Wire _ _ hlen]
  rfl

theorem mockSession_send (pcktid : UInt16) (replies : List (List UInt8)) (data : List UInt8) :
    Transport.sendFrame (mockSession pcktid replies).transport data
      = (.ok data.length, ⟨replies, [data], false⟩) := rfl

theorem mockSession_delivers (pcktid : UInt16) (replies sent : List (List UInt8)) :
    Delivers (mockSession pcktid replies).frames ⟨replies, sent, false⟩ replies
      ⟨[], sent, false⟩ := by
  have hall := MockTransport.delivers 1000 replies [] sent
  rw [List.append_nil] at hall
  exact hall

/-- A mock that has the fragments and the bare echo queued answers an event-log query. -/
theorem eventLogReply_mock (pcktid : UInt16) {frags : List Fragment} {echo : List UInt8}
    (hcount : 1 ≤ frags.length ∧ frags.length ≤ 31) (hecho : echo.length = 12)
    (hsize : ∀ f ∈ frags, f.body.length ≤ 32000) :
    EventLogReply
      (mockSession pcktid
        (frags.map (fun f => mockReply 7 (succPktId pcktid) f.body)
          ++ [mockReply 7 (succPktId pcktid) echo]))
      125 7 0 86400 frags echo := by
  have hfield := l2FieldOf_eventLogWire
    (mockSession pcktid
      (frags.map (fun f => mockReply 7 (succPktId pcktid) f.body)
        ++ [mockReply 7 (succPktId pcktid) echo])) 125 7 0 86400
  refine ⟨⟨_, _, _, _, _, mockSession_send _ _ _, mockSession_delivers _ _ _, ?_,
    replyTo_mock pcktid (by omega) hfield⟩, hcount, hecho⟩
  rw [List.forall₂_map_left_iff, List.forall₂_map_right_iff, List.forall₂_same]
  intro f hf
  exact replyTo_mock pcktid (hsize f hf) hfield

def sampleEvent (entryId : UInt32) : EventRecord := ⟨entryId, 1700000000, 307, 7, 0, 0⟩

/-- A fragment with one record. -/
def sampleFragment (entryId : UInt32) : Fragment where
  echo := List.replicate 12 0xAA
  records := [sampleEvent entryId]
  echo_length := by decide
  records_ne := List.cons_ne_nil _ _
  not_padding := by
    intro r hr
    obtain rfl := List.mem_singleton.mp hr
    rintro ⟨-, hcode, -⟩
    exact absurd (show (307 : UInt32) = 0 from hcode) (by decide)

theorem length_sampleFragment (entryId : UInt32) :
    (sampleFragment entryId).body.length ≤ 32000 := by
  simp [sampleFragment, Fragment.body]

theorem event_log_reassembled_iff_one_fragment :
    (∃ aggregated,
        value ((queryEventLogForDevice 125 7 0 86400).run
          (mockSession 0 ([sampleFragment 1].map (fun f => mockReply 7 (succPktId 0) f.body)
            ++ [mockReply 7 (succPktId 0) (List.replicate 12 0xAA)]))) = .ok aggregated ∧
        parseEventLogRecords aggregated = allRecords [sampleFragment 1]) ↔
      (succPktId 0).toNat < 32768 ∧
        ([sampleFragment 1].length = 1 ∨
          (allRecords [sampleFragment 1].tail).flatMap EventRecord.encode ++ List.replicate 12 0
            <+: behindFirst [sampleFragment 1] (List.replicate 12 0xAA)) :=
  event_log_reassembled_iff rfl
    (eventLogReply_mock 0 (by decide) (by decide) (by simp [length_sampleFragment]))

/-- Two fragments with one record each: the second echo is taken for the start of a record, and the
    records do not come out as they went in. -/
theorem event_log_not_reassembled_two_fragments :
    EventLogReply
        (mockSession 0
          ([sampleFragment 1, sampleFragment 2].map (fun f => mockReply 7 (succPktId 0) f.body)
            ++ [mockReply 7 (succPktId 0) (List.replicate 12 0xAA)]))
        125 7 0 86400 [sampleFragment 1, sampleFragment 2] (List.replicate 12 0xAA) ∧
      ¬ ∃ aggregated,
        value ((queryEventLogForDevice 125 7 0 86400).run
          (mockSession 0
            ([sampleFragment 1, sampleFragment 2].map (fun f => mockReply 7 (succPktId 0) f.body)
              ++ [mockReply 7 (succPktId 0) (List.replicate 12 0xAA)]))) = .ok aggregated ∧
        parseEventLogRecords aggregated = allRecords [sampleFragment 1, sampleFragment 2] := by
  have hreply := @eventLogReply_mock 0 [sampleFragment 1, sampleFragment 2]
    (List.replicate 12 0xAA) (by decide) (by decide) (by simp [length_sampleFragment])
  refine ⟨hreply, ?_⟩
  rintro ⟨aggregated, hvalue, hparse⟩
  rw [value_of_eventLogReply rfl hreply (by decide)] at hvalue
  obtain rfl := Except.ok.inj hvalue
  rw [parse_aggregated] at hparse
  have hbehind := (parse_behindFirst_iff (sampleFragment 1) [sampleFragment 2] (by decide)).mp
    (List.append_cancel_left hparse)
  rcases hbehind with hone | ⟨t, ht⟩
  · nomatch hone
  · exact absurd (List.cons.inj ht).1 (by decide)

end Session

end HassSma
