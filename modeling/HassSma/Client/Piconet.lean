/-
  A client and the inverters it talks to.

  One link often fronts several inverters: a repeater passes the client's packets on to all of them,
  and each answers under its own address.  `Piconet` is such a peer, as a transport: it reads the
  frames the client sends as the client itself would (`Frame.parse`, `decodeL2`), lets every device
  that is addressed answer, in whatever order the devices come, and times out when nobody has.

  What is here is what one packet of the client makes the devices say: a packet to everyone is answered
  by each of them (`Piconet.replies_broadcast`), a packet to one device by that device alone
  (`Piconet.replies_addressed`), and always under the packet id it came with
  (`Piconet.pktIdOf_replies`).
-/
import HassSma.Client.EventLog
import HassSma.Client.Handshake

namespace HassSma

open Bytes Fallible Polling

/-! ## Devices -/

/-- What a device may send as a command body: it fits one frame. -/
abbrev CommandBody := { body : List UInt8 // body.length ≤ 32000 }

/-- An event log as a device sends it: fragments with records, then an echo without any; no more frames
    than one receive loop takes. -/
structure LogAnswer where
  fragments : List CommandBody
  echo : CommandBody
  few : fragments.length < 16
  records : ∀ f ∈ fragments, 12 < f.val.length
  bare : echo.val.length ≤ 12

/-- Everything the device sends of its log, in one string. -/
def LogAnswer.text (log : LogAnswer) : List UInt8 :=
  (log.fragments.map Subtype.val).flatten ++ log.echo.val

structure Device where
  bt : BtAddr
  susyId : UInt16
  serial : UInt32
  /-- The code its logon reply carries; 0 lets the client in. -/
  logonCode : UInt16
  /-- The answer to a range query, by command word, first and last LRI. -/
  answer : UInt32 → UInt32 → UInt32 → Option CommandBody
  eventLog : UInt32 → UInt32 → Option LogAnswer

namespace Device

variable (d : Device)

def isAddressed (susyId : UInt16) (serial : UInt32) : Bool :=
  (susyId = anySusyId || susyId = d.susyId) && (serial = anySerial || serial = d.serial)

/-- A reply to the packet `req`: the same packet id, and the parties exchanged. -/
def reply (req : L2Header) (code : UInt16) (body : List UInt8) : List UInt8 :=
  Session.l2Wire d.bt (encodeL2
    { longwords := 0x09
      ctrl := 0xA0
      dstSusyId := req.appSusyId
      dstSerial := req.appSerial
      ctrl2 := 0
      appSusyId := d.susyId
      appSerial := d.serial
      errorCode := code
      pktId := req.pktId } body)

/-- The frames a device sends when it is addressed by a packet. -/
def answers (req : L2Header) (data : List UInt8) : List (List UInt8) :=
  let command := readU32 (slice data 0 4)
  let first := readU32 (slice data 4 8)
  let last := readU32 (slice data 8 12)
  if command = 0x00000200 then [d.reply req 0 []]
  else if command = Session.logoffCommand then []
  else if command = Session.logonCommand then [d.reply req d.logonCode []]
  else if command = eventLogCommand then
    match d.eventLog first last with
    | none => []
    | some log => (log.fragments ++ [log.echo]).map fun body => d.reply req 0 body.val
  else
    match d.answer command first last with
    | none => []
    | some body => [d.reply req 0 body.val]

def react (req : L2Header) (data : List UInt8) : List (List UInt8) :=
  if d.isAddressed req.dstSusyId req.dstSerial then d.answers req data else []

end Device

/-! ## The peer -/

/-- The inverters behind one link.  No two of them share an address, and none has the wildcard for a
    serial. -/
structure Piconet where
  devices : List Device
  /-- The device that says hello. -/
  root : Device
  root_mem : root ∈ devices
  addresses_nodup : (devices.map Device.bt).Nodup
  serials_nodup : (devices.map Device.serial).Nodup
  serials_plain : ∀ d ∈ devices, d.serial ≠ anySerial
  netId : UInt8
  firmware : { version : UInt8 // 4 ≤ version }
  /-- In which order the devices answer each packet. -/
  order : Nat → List Device
  order_perm : ∀ k, (order k).Perm devices
  /-- Packets so far. -/
  round : Nat
  inbox : List (List UInt8)

namespace Piconet

def hello (p : Piconet) : List UInt8 :=
  Session.l1Wire p.root.bt 0x0002 [0, p.firmware.val, 0x70, 0, p.netId]

def topology (p : Piconet) : List UInt8 := Session.l1Wire p.root.bt 0x0005 []

/-- What the peer says to a frame of the client. -/
def replies (p : Piconet) (raw : List UInt8) : List (List UInt8) :=
  match Frame.parse raw with
  | .error _ => []
  | .ok frame =>
    if frame.control = 0x0201 then [p.hello]
    else if frame.control = 0x0002 then [p.topology]
    else
      match decodeL2 frame.payload with
      | none => []
      | some (req, data) => (p.order p.round).flatMap (·.react req data)

/-- The same devices, with these frames to come. -/
def withInbox (p : Piconet) (inbox : List (List UInt8)) : Piconet := { p with inbox := inbox }

/-- The same devices one packet later, with these frames to come. -/
def next (p : Piconet) (inbox : List (List UInt8)) : Piconet :=
  { p with round := p.round + 1, inbox := inbox }

instance : Transport Piconet where
  sendFrame p data := (.ok data.length, p.next (p.inbox ++ p.replies data))
  recvFrame p timeoutMs :=
    match p.inbox with
    | [] => (.error (.timeout timeoutMs), p)
    | frame :: rest => (.ok frame, p.withInbox rest)
  close p := (.ok (), p)

/-- The device a request goes to, if it is there. -/
def respondent (p : Piconet) (susyId : UInt16) (serial : UInt32) : Option Device :=
  p.devices.find? (·.isAddressed susyId serial)

def answerQuery (p : Piconet) (susyId : UInt16) (serial : UInt32) (kind : QueryKind) :
    Except SessionError (List UInt8) :=
  match (p.respondent susyId serial).bind
      (·.answer kind.opcode.1 kind.opcode.2.1 kind.opcode.2.2) with
  | some body => .ok body.val
  | none => .error (.silent "query")

def answerEventLog (p : Piconet) (susyId : UInt16) (serial startUnix endUnix : UInt32) :
    Except SessionError (List UInt8) :=
  match (p.respondent susyId serial).bind (·.eventLog startUnix endUnix) with
  | some log => .ok log.text
  | none => .error (.silent "event-log")

/-- What a request with packet id `id` is answered with: what the device it is addressed to has to say,
    and silence if that is nothing, or if the id does not fit the wire. -/
def answerTo (p : Piconet) (id : UInt16) : Session.Request → Except SessionError (List UInt8)
  | .query kind =>
    if id.toNat < 32768 then p.answerQuery p.root.susyId p.root.serial kind
    else .error (.silent "query")
  | .queryForDevice susyId serial kind =>
    if id.toNat < 32768 then p.answerQuery susyId serial kind else .error (.silent "query")
  | .queryEventLogForDevice susyId serial startUnix endUnix =>
    if id.toNat < 32768 then p.answerEventLog susyId serial startUnix endUnix
    else .error (.silent "event-log")

/-- A run of requests behind the packet id `id`, each with the next one. -/
def answersTo (p : Piconet) : UInt16 → List Session.Request → List (Except SessionError (List UInt8))
  | _, [] => []
  | id, r :: rs =>
    p.answerTo (Session.succPktId id) r :: p.answersTo (Session.succPktId id) rs

end Piconet

/-- A header as it is read back. -/
def L2Header.onWire (hdr : L2Header) : L2Header := { hdr with pktId := wirePktId hdr.pktId }

theorem decodeL2_encodeL2_onWire (hdr : L2Header) (body : List UInt8) :
    decodeL2 (encodeL2 hdr body) = some (hdr.onWire, body) := decodeL2_encodeL2 hdr body

/-! ## Frames of the devices -/

namespace Device

variable (d : Device)

theorem parse_reply (req : L2Header) (code : UInt16) {body : List UInt8} (hbody : body.length ≤ 32000) :
    ∃ frame hdr, Frame.parse (d.reply req code body) = .ok frame ∧ frame.kind = .l2Wrapped ∧
      frame.control = 0x0001 ∧ frame.localBt = d.bt ∧ decodeL2 frame.payload = some (hdr, body) ∧
      hdr.pktId = wirePktId req.pktId ∧ hdr.errorCode = code ∧ hdr.appSusyId = d.susyId ∧
      hdr.appSerial = d.serial :=
  ⟨_, _, Session.parse_l2Wire d.bt _ hbody, rfl, rfl, rfl, decodeL2_encodeL2 _ _, rfl, rfl, rfl, rfl⟩

/-- Any reply carries the packet id of the packet it answers. -/
theorem pktIdOf_reply (req : L2Header) (code : UInt16) {body : List UInt8}
    (hbody : body.length ≤ 32000) :
    Session.pktIdOf (d.reply req code body) = some (wirePktId req.pktId) := by
  obtain ⟨frame, hdr, hparse, hkind, -, -, hdec, hid, -⟩ := d.parse_reply req code hbody
  have hl2 := Session.l2Of_eq_some.mpr ⟨frame, hparse, hkind, hdec⟩
  rw [Session.pktIdOf, hl2, Option.map_some, hid]

theorem isAddressed_any : d.isAddressed anySusyId anySerial = true := by simp [isAddressed]

/-- A packet to a serial that is no wildcard reaches only the device with that serial. -/
theorem serial_of_isAddressed {susyId : UInt16} {serial : UInt32} (hplain : serial ≠ anySerial)
    (h : d.isAddressed susyId serial = true) : d.serial = serial := by
  rw [isAddressed, Bool.and_eq_true, Bool.or_eq_true, Bool.or_eq_true] at h
  rcases h.2 with hany | hown
  · exact absurd (of_decide_eq_true hany) hplain
  · exact (of_decide_eq_true hown).symm

theorem isAddressed_self : d.isAddressed d.susyId d.serial = true := by simp [isAddressed]

theorem react_addressed {hdr : L2Header} (h : d.isAddressed hdr.dstSusyId hdr.dstSerial = true)
    (data : List UInt8) : d.react hdr.onWire data = d.answers hdr.onWire data := if_pos h

theorem react_not_addressed {hdr : L2Header} (h : ¬ d.isAddressed hdr.dstSusyId hdr.dstSerial = true)
    (data : List UInt8) : d.react hdr.onWire data = [] := if_neg h

/-! ### What is said to each packet of the client -/

variable (req : L2Header)

theorem answers_init (data : List UInt8) (h : readU32 (slice data 0 4) = 0x00000200) :
    d.answers req data = [d.reply req 0 []] := by
  rw [answers]
  simp only [h, if_true]

theorem answers_logoff (data : List UInt8) (h : readU32 (slice data 0 4) = Session.logoffCommand) :
    d.answers req data = [] := by
  rw [answers]
  simp only [h, if_neg (show ¬ Session.logoffCommand = 0x00000200 by decide), if_true]

theorem answers_logon (data : List UInt8) (h : readU32 (slice data 0 4) = Session.logonCommand) :
    d.answers req data = [d.reply req d.logonCode []] := by
  rw [answers]
  simp only [h, if_neg (show ¬ Session.logonCommand = 0x00000200 by decide),
    if_neg (show ¬ Session.logonCommand = Session.logoffCommand by decide), if_true]

/-- The three words of a request are read back as they were written. -/
theorem words_of_request (command first last : UInt32) :
    let data := writeU32 command ++ writeU32 first ++ writeU32 last
    readU32 (slice data 0 4) = command ∧ readU32 (slice data 4 8) = first ∧
      readU32 (slice data 8 12) = last := by
  have h₀ : slice (writeU32 command ++ writeU32 first ++ writeU32 last) 0 4 = writeU32 command := rfl
  have h₁ : slice (writeU32 command ++ writeU32 first ++ writeU32 last) 4 8 = writeU32 first := rfl
  have h₂ : slice (writeU32 command ++ writeU32 first ++ writeU32 last) 8 12 = writeU32 last := rfl
  simp only [h₀, h₁, h₂, readU32_writeU32, and_self]

theorem answers_query (kind : QueryKind) :
    d.answers req (writeU32 kind.opcode.1 ++ writeU32 kind.opcode.2.1 ++ writeU32 kind.opcode.2.2)
      = ((d.answer kind.opcode.1 kind.opcode.2.1 kind.opcode.2.2).map fun body =>
          d.reply req 0 body.val).toList := by
  obtain ⟨hcommand, hfirst, hlast⟩ :=
    words_of_request kind.opcode.1 kind.opcode.2.1 kind.opcode.2.2
  have hother : kind.opcode.1 ≠ 0x00000200 ∧ kind.opcode.1 ≠ Session.logoffCommand ∧
      kind.opcode.1 ≠ Session.logonCommand ∧ kind.opcode.1 ≠ eventLogCommand := by
    cases kind <;> decide
  obtain ⟨hinit, hlogoff, hlogon, hlog⟩ := hother
  rw [answers]
  simp only [hcommand, hfirst, hlast, if_neg hinit, if_neg hlogoff, if_neg hlogon, if_neg hlog]
  cases d.answer kind.opcode.1 kind.opcode.2.1 kind.opcode.2.2 <;> rfl

theorem answers_eventLog (startUnix endUnix : UInt32) :
    d.answers req (writeU32 eventLogCommand ++ writeU32 startUnix ++ writeU32 endUnix)
      = ((d.eventLog startUnix endUnix).map fun log =>
          (log.fragments ++ [log.echo]).map fun body => d.reply req 0 body.val).getD [] := by
  obtain ⟨hcommand, hfirst, hlast⟩ := words_of_request eventLogCommand startUnix endUnix
  rw [answers]
  simp only [hcommand, hfirst, hlast, if_neg (show ¬ eventLogCommand = 0x00000200 by decide),
    if_neg (show ¬ eventLogCommand = Session.logoffCommand by decide),
    if_neg (show ¬ eventLogCommand = Session.logonCommand by decide), if_true]
  cases d.eventLog startUnix endUnix <;> rfl

end Device

/-! ## One packet -/

/-- Where only one item of a list has anything to say, that is what the list says. -/
theorem flatMap_eq_of_unique {α β : Type} {f : α → List β} {l : List α} {a : α} (hnodup : l.Nodup)
    (ha : a ∈ l) (hunique : ∀ b ∈ l, f b ≠ [] → b = a) : l.flatMap f = f a := by
  obtain ⟨front, back, rfl⟩ := List.append_of_mem ha
  have hsplit := List.nodup_middle.mp hnodup
  have hsilent : ∀ b ∈ front ++ back, f b = [] := by
    intro b hb
    by_contra hsays
    have hmem : b ∈ front ++ a :: back := by
      rw [List.mem_append, List.mem_cons]
      rcases List.mem_append.mp hb with hfront | hback
      · exact .inl hfront
      · exact .inr (.inr hback)
    have heq := hunique b hmem hsays
    rw [heq] at hb
    exact (List.nodup_cons.mp hsplit).1 hb
  have hfront : front.flatMap f = [] :=
    List.flatMap_eq_nil_iff.mpr fun b hb => hsilent b (List.mem_append_left _ hb)
  have hback : back.flatMap f = [] :=
    List.flatMap_eq_nil_iff.mpr fun b hb => hsilent b (List.mem_append_right _ hb)
  rw [List.flatMap_append, List.flatMap_cons, hfront, hback, List.append_nil, List.nil_append]

namespace Piconet

variable (p : Piconet)

/-- What waits in the inbox is delivered, in order. -/
theorem delivers (timeoutMs : UInt64) (frames rest : List (List UInt8)) :
    Delivers (Transport.recvFrame · timeoutMs) (p.withInbox (frames ++ rest)) frames
      (p.withInbox rest) :=
  @delivers_queue _ _ _ (Transport.recvFrame · timeoutMs) p.withInbox (fun _ _ => rfl) frames rest

/-- All that a packet leaves in the inbox. -/
theorem next_delivers (timeoutMs : UInt64) (frames : List (List UInt8)) :
    Delivers (Transport.recvFrame · timeoutMs) (p.next frames) frames (p.next []) := by
  have hall := (p.next frames).delivers timeoutMs frames []
  rw [List.append_nil] at hall
  exact hall

theorem replies_packet (localBt : BtAddr) (hdr : L2Header) {body : List UInt8}
    (hbody : body.length ≤ 32000) :
    p.replies (Session.l2Wire localBt (encodeL2 hdr body))
      = (p.order p.round).flatMap (·.react hdr.onWire body) := by
  rw [replies, Session.parse_l2Wire localBt hdr hbody]
  simp only [if_neg (show ¬ (0x0001 : UInt16) = 0x0201 by decide),
    if_neg (show ¬ (0x0001 : UInt16) = 0x0002 by decide), decodeL2_encodeL2_onWire]

theorem mem_order {k : Nat} {d : Device} : d ∈ p.order k ↔ d ∈ p.devices :=
  (p.order_perm k).mem_iff

theorem order_nodup (k : Nat) : (p.order k).Nodup :=
  (p.order_perm k).nodup_iff.mpr (List.Nodup.of_map _ p.addresses_nodup)

/-- **A packet to everyone** is answered by every device, in the order of the round. -/
theorem replies_broadcast (localBt : BtAddr) (hdr : L2Header) {body : List UInt8}
    (hbody : body.length ≤ 32000) (hsusy : hdr.dstSusyId = anySusyId)
    (hserial : hdr.dstSerial = anySerial) :
    p.replies (Session.l2Wire localBt (encodeL2 hdr body))
      = (p.order p.round).flatMap (·.answers hdr.onWire body) := by
  rw [p.replies_packet localBt hdr hbody]
  congr 1
  funext d
  apply d.react_addressed
  rw [hsusy, hserial]
  exact d.isAddressed_any

/-- **A packet to one device** is answered by that device alone. -/
theorem replies_addressed (localBt : BtAddr) (hdr : L2Header) {body : List UInt8}
    (hbody : body.length ≤ 32000) (hplain : hdr.dstSerial ≠ anySerial) :
    p.replies (Session.l2Wire localBt (encodeL2 hdr body))
      = ((p.respondent hdr.dstSusyId hdr.dstSerial).map
          (·.answers hdr.onWire body)).getD [] := by
  rw [p.replies_packet localBt hdr hbody]
  cases hfind : p.respondent hdr.dstSusyId hdr.dstSerial with
  | none =>
    rw [Option.map_none, Option.getD_none, List.flatMap_eq_nil_iff]
    intro d hd
    exact d.react_not_addressed (List.find?_eq_none.mp hfind d (p.mem_order.mp hd)) body
  | some d =>
    have hd : d ∈ p.devices := List.mem_of_find?_eq_some hfind
    have haddr : d.isAddressed hdr.dstSusyId hdr.dstSerial = true :=
      @List.find?_some _ (fun d : Device => d.isAddressed hdr.dstSusyId hdr.dstSerial) d _ hfind
    rw [Option.map_some, Option.getD_some,
      flatMap_eq_of_unique (p.order_nodup p.round) (p.mem_order.mpr hd) ?_]
    · exact d.react_addressed haddr body
    · intro e he hsays
      have heAddr : e.isAddressed hdr.dstSusyId hdr.dstSerial = true := by
        by_contra hnot
        exact hsays (e.react_not_addressed hnot body)
      -- two devices with the serial of the packet are one
      have hserial : e.serial = d.serial :=
        (e.serial_of_isAddressed hplain heAddr).trans (d.serial_of_isAddressed hplain haddr).symm
      exact List.inj_on_of_nodup_map p.serials_nodup (p.mem_order.mp he) hd hserial

/-- Every frame the devices send in reply to a packet carries its packet id. -/
theorem pktIdOf_replies (localBt : BtAddr) (hdr : L2Header) {body : List UInt8}
    (hbody : body.length ≤ 32000) {raw : List UInt8}
    (hraw : raw ∈ p.replies (Session.l2Wire localBt (encodeL2 hdr body))) :
    Session.pktIdOf raw = some (wirePktId hdr.pktId) := by
  have hreply : ∀ (d : Device) (req : L2Header), wirePktId req.pktId = wirePktId hdr.pktId →
      ∀ (code : UInt16) {body : List UInt8}, body.length ≤ 32000 → raw = d.reply req code body →
        Session.pktIdOf raw = some (wirePktId hdr.pktId) := by
    intro d req hid code body hbody heq
    rw [heq, d.pktIdOf_reply req code hbody, hid]
  have hid : wirePktId (wirePktId hdr.pktId) = wirePktId hdr.pktId := by
    rw [wirePktId_eq_iff, wirePktId_toNat]
    omega
  rw [p.replies_packet localBt hdr hbody, List.mem_flatMap] at hraw
  obtain ⟨d, -, hraw⟩ := hraw
  simp only [Device.react] at hraw
  split at hraw
  · rw [Device.answers] at hraw
    split at hraw
    · exact hreply d _ hid _ (by decide) (List.mem_singleton.mp hraw)
    · split at hraw
      · nomatch hraw
      · split at hraw
        · exact hreply d _ hid _ (by decide) (List.mem_singleton.mp hraw)
        · split at hraw
          · split at hraw
            · nomatch hraw
            · obtain ⟨body, -, rfl⟩ := List.mem_map.mp hraw
              exact hreply d _ hid _ body.property rfl
          · split at hraw
            · nomatch hraw
            · rename_i body heq
              exact hreply d _ hid _ body.property (List.mem_singleton.mp hraw)
  · nomatch hraw

/-- Where the id does not fit the wire, no reply is recognised. -/
theorem noise_replies_high (localBt : BtAddr) (hdr : L2Header) {body : List UInt8}
    (hbody : body.length ≤ 32000) (hhigh : 32768 ≤ hdr.pktId.toNat) :
    Session.Noise hdr.pktId (p.replies (Session.l2Wire localBt (encodeL2 hdr body))) := by
  intro raw hraw hsame
  rw [p.pktIdOf_replies localBt hdr hbody hraw, Option.some.injEq, wirePktId_eq_iff] at hsame
  omega

end Piconet

end HassSma
