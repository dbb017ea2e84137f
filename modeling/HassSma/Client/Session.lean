/-
  The session state machine (`inverter-client/src/session.rs`).

  A session drives a transport: handshake and logon, queries, event-log queries, close.  Every call
  is a computation that keeps the session when it fails, since an error leaves the transport, the
  packet counter and the state enum where they were at that moment.

  The receive loops are bounded and pass over frames that are malformed or not the wanted ones.
  Each of them is a `Polling.poll` of the transport: `run_recvUntilL1Ctrl`, `run_recvL2WithPktId`.

  The clock reading that goes into the logon packet is an argument; the two sleeps and the log lines
  have no effect on what is modelled and are left out.
-/
import HassSma.Bluez.Transport
import HassSma.Lib.Fallible
import HassSma.Protocol.Packet

namespace HassSma

open Bytes Fallible Polling

/-! ## Data -/

inductive SessionError where
  | transport (e : TransportError)
  | parse (e : ParseError)
  | logonFailed (code : UInt16)
  | firmwareTooOld (version : UInt8)
  | protocol (phase : String)
  | silent (phase : String)
  deriving DecidableEq, Repr

/-- The session itself is broken; the caller must reconnect. -/
def SessionError.isSessionFatal : SessionError → Bool
  | transport _ => true
  | parse _ => true
  | logonFailed _ => true
  | firmwareTooOld _ => true
  | protocol phase => !(phase = "query" || phase = "event-log")
  | silent phase => !(phase = "query" || phase = "event-log")

/-- A parsed L2 reply. -/
structure L2Reply where
  pktId : UInt16
  errorCode : UInt16
  appSusyId : UInt16
  appSerial : UInt32
  body : List UInt8
  deriving DecidableEq, Repr

structure SessionConfig where
  inverterBt : BtAddr
  localBt : BtAddr
  password : String
  userGroup : UserGroup
  timeoutMs : UInt64

inductive SessionState where
  | disconnected
  | handshaking
  | enumerating
  | loggedIn
  | degraded
  deriving DecidableEq, Repr

structure Session (T : Type) where
  transport : T
  cfg : SessionConfig
  state : SessionState
  appSerial : UInt32
  /-- Packet id of the last request. -/
  pcktid : UInt16
  inverterSusyId : UInt16
  inverterSerial : UInt32

/-- A call on a session. -/
abbrev SessionM (T : Type) := EStateM SessionError (Session T)

namespace Session

variable {T : Type} [Transport T]

def newWithAppSerial (transport : T) (cfg : SessionConfig) (appSerial : UInt32) : Session T :=
  ⟨transport, cfg, .disconnected, appSerial, 0, 0, 0⟩

/-! ## Primitives -/

def sendFrame (data : List UInt8) : SessionM T Nat := fun s =>
  match Transport.sendFrame s.transport data with
  | (.ok n, t) => .ok n { s with transport := t }
  | (.error e, t) => .error (.transport e) { s with transport := t }

/-- A receive error as the session reports it: a timeout is silence in that phase. -/
def recvError (phase : String) : TransportError → SessionError
  | .timeout _ => .silent phase
  | other => .transport other

def recvFrame (phase : String) : SessionM T (List UInt8) := fun s =>
  match Transport.recvFrame s.transport s.cfg.timeoutMs with
  | (.ok raw, t) => .ok raw { s with transport := t }
  | (.error e, t) => .error (recvError phase e) { s with transport := t }

def parseFrame (raw : List UInt8) : SessionM T Frame :=
  match Frame.parse raw with
  | .ok frame => pure frame
  | .error e => throw (.parse e)

/-- Go on only if `c` holds. -/
def ensure (c : Prop) [Decidable c] (e : SessionError) : SessionM T Unit :=
  if c then pure () else throw e

/-- The counter after one more request: it wraps, and skips zero. -/
def succPktId (id : UInt16) : UInt16 := max (id + 1) 1

def nextPcktid : SessionM T UInt16 :=
  modifyGet fun s => (succPktId s.pcktid, { s with pcktid := succPktId s.pcktid })

/-- An L2 packet to every device, as the client always sends it. -/
def l2Wire (localBt : BtAddr) (body : List UInt8) : List UInt8 :=
  ((FrameBuilder.new localBt (.fill 0xFF) 0x0001).extend body).build

def replyOf (hdr : L2Header) (data : List UInt8) : L2Reply :=
  ⟨hdr.pktId, hdr.errorCode, hdr.appSusyId, hdr.appSerial, data⟩

/-! ## Receive loops -/

/-- Receive until an L1 frame with the given control word; the argument is the attempts left. -/
def recvUntilL1CtrlLoop (wantCtrl : UInt16) (phase : String) : Nat → SessionM T (List UInt8)
  | 0 => throw (.silent phase)
  | attempts + 1 => do
    let bytes ← recvFrame phase
    match Frame.parse bytes with
    | .error _ => recvUntilL1CtrlLoop wantCtrl phase attempts
    | .ok frame =>
      if frame.control = wantCtrl then pure bytes
      else recvUntilL1CtrlLoop wantCtrl phase attempts

def recvUntilL1Ctrl (wantCtrl : UInt16) (phase : String) : SessionM T (List UInt8) :=
  recvUntilL1CtrlLoop wantCtrl phase 12

/-- Receive until an L2 frame with the given packet id. -/
def recvL2WithPktIdLoop (wantPktId : UInt16) (phase : String) :
    Nat → SessionM T (List UInt8 × L2Reply)
  | 0 => throw (.silent phase)
  | attempts + 1 => do
    let bytes ← recvFrame phase
    match Frame.parse bytes with
    | .error _ => recvL2WithPktIdLoop wantPktId phase attempts
    | .ok frame =>
      if frame.kind ≠ .l2Wrapped then recvL2WithPktIdLoop wantPktId phase attempts
      else
        match decodeL2 frame.payload with
        | none => recvL2WithPktIdLoop wantPktId phase attempts
        | some (hdr, data) =>
          if hdr.pktId = wantPktId then pure (bytes, replyOf hdr data)
          else recvL2WithPktIdLoop wantPktId phase attempts

def recvL2WithPktId (wantPktId : UInt16) (phase : String) :
    SessionM T (List UInt8 × L2Reply) :=
  recvL2WithPktIdLoop wantPktId phase 16

/-- Receive until the init reply that comes from the target's BT address. -/
def recvInitFromTargetLoop (wantPktId : UInt16) (targetBt : BtAddr) : Nat → SessionM T L2Reply
  | 0 => throw (.silent "init")
  | attempts + 1 => do
    let bytes ← recvUntilL1Ctrl 0x0001 "init"
    match Frame.parse bytes with
    | .error _ => recvInitFromTargetLoop wantPktId targetBt attempts
    | .ok frame =>
      match decodeL2 frame.payload with
      | none => recvInitFromTargetLoop wantPktId targetBt attempts
      | some (hdr, data) =>
        if hdr.pktId ≠ wantPktId then recvInitFromTargetLoop wantPktId targetBt attempts
        else if frame.localBt ≠ targetBt then recvInitFromTargetLoop wantPktId targetBt attempts
        else pure (replyOf hdr data)

def recvInitFromTarget (wantPktId : UInt16) (targetBt : BtAddr) : SessionM T L2Reply :=
  recvInitFromTargetLoop wantPktId targetBt 16

/-! ## Handshake and logon -/

/-- The `ver\r\n` discovery frame. -/
def verWire : List UInt8 :=
  ((FrameBuilder.newWithKind .l1Only (.fill 0) ⟨[1, 0, 0, 0, 0, 0], rfl⟩ 0x0201).extend
    [0x76, 0x65, 0x72, 0x0D, 0x0A]).build

/-- The echo of the inverter's hello. -/
def echoWire (inverterBt : BtAddr) (netId : UInt8) : List UInt8 :=
  ((FrameBuilder.newWithKind .l1Only (.fill 0) inverterBt 0x0002).extend
    (writeU32 0x00700400 ++ [netId] ++ writeU32 0 ++ writeU32 1)).build

/-- The logon reply loop: the accepting reply if there is one, and the last rejection before it.
    Any receive error ends the loop. -/
def logonReplyLoop (pktId : UInt16) :
    Nat → Option L2Reply → SessionM T (Option L2Reply × Option L2Reply)
  | 0, lastReject => pure (none, lastReject)
  | attempts + 1, lastReject => do
    match ← attempt (recvUntilL1Ctrl 0x0001 "logon") with
    | .error _ => pure (none, lastReject)
    | .ok bytes =>
      match Frame.parse bytes with
      | .error _ => logonReplyLoop pktId attempts lastReject
      | .ok frame =>
        match decodeL2 frame.payload with
        | none => logonReplyLoop pktId attempts lastReject
        | some (hdr, data) =>
          if hdr.pktId ≠ pktId then logonReplyLoop pktId attempts lastReject
          else if (replyOf hdr data).errorCode = 0 then pure (some (replyOf hdr data), lastReject)
          else logonReplyLoop pktId attempts (some (replyOf hdr data))

/-- The logon step: the accepting reply, or the error that stands for the rejections. -/
def recvLogonReply (pktId : UInt16) : SessionM T L2Reply := do
  match ← logonReplyLoop pktId 16 none with
  | (some reply, _) => pure reply
  | (none, some rej) =>
    if rej.errorCode = 0x0100 then throw (.logonFailed 0x0100)
    else throw (.logonFailed rej.errorCode)
  | (none, none) => throw (.silent "logon")

def handshakeAndLogon (nowEpoch : UInt32) : SessionM T Unit := do
  modify fun s => { s with state := .handshaking }
  -- step 0: discovery
  let _ ← sendFrame verWire
  -- step 1: hello
  let helloBytes ← recvFrame "hello"
  let hello ← parseFrame helloBytes
  ensure (hello.control = 0x0002) (.protocol "hello-ctrl")
  ensure (23 ≤ helloBytes.length) (.protocol "hello-short")
  ensure (4 ≤ byteAt helloBytes 19) (.firmwareTooOld (byteAt helloBytes 19))
  -- step 2: echo
  let _ ← sendFrame (echoWire hello.localBt (byteAt helloBytes 22))
  -- step 3: topology
  let _ ← recvUntilL1Ctrl 0x0005 "topology"
  modify fun s => { s with state := .enumerating }
  -- step 4: init
  let initId ← nextPcktid
  let s ← get
  let _ ← sendFrame (l2Wire s.cfg.localBt (buildInitBody initId s.appSerial))
  let initReply ← recvInitFromTarget initId hello.localBt
  modify fun s =>
    { s with inverterSusyId := initReply.appSusyId, inverterSerial := initReply.appSerial }
  -- step 5: logoff
  let logoffId ← nextPcktid
  let _ ← sendFrame (l2Wire s.cfg.localBt (buildLogoffBody logoffId s.appSerial))
  -- steps 6 and 7: logon
  let logonId ← nextPcktid
  let _ ← sendFrame (l2Wire s.cfg.localBt
    (buildLogonBody s.cfg.password s.cfg.userGroup logonId s.appSerial nowEpoch))
  let _ ← recvLogonReply logonId
  modify fun s => { s with state := .loggedIn }

/-! ## Queries -/

def queryForDevice (susyId : UInt16) (serial : UInt32) (kind : QueryKind) :
    SessionM T (List UInt8) := do
  let s ← get
  ensure (s.state = .loggedIn) (.protocol "query-not-logged-in")
  let pktId ← nextPcktid
  let _ ← sendFrame (l2Wire s.cfg.localBt (buildQueryBody kind pktId s.appSerial susyId serial))
  let (_, reply) ← recvL2WithPktId pktId "query"
  pure reply.body

def query (kind : QueryKind) : SessionM T (List UInt8) := do
  let s ← get
  queryForDevice s.inverterSusyId s.inverterSerial kind

/-- Collect fragments until one carries no record; the first argument is the fragments left. -/
def collectFragments (pktId : UInt16) : Nat → List UInt8 → SessionM T (List UInt8)
  | 0, aggregated => pure aggregated
  | fragments + 1, aggregated => do
    let (_, reply) ← recvL2WithPktId pktId "event-log"
    if reply.errorCode ≠ 0 then throw (.protocol "event-log-retcode")
    else if reply.body.length < 12 then pure (aggregated ++ reply.body)
    else if reply.body.length = 12 then pure (aggregated ++ reply.body)
    else collectFragments pktId fragments (aggregated ++ reply.body)

def queryEventLogForDevice (susyId : UInt16) (serial startUnix endUnix : UInt32) :
    SessionM T (List UInt8) := do
  let s ← get
  ensure (s.state = .loggedIn) (.protocol "event-log-not-logged-in")
  let pktId ← nextPcktid
  let _ ← sendFrame (l2Wire s.cfg.localBt
    (buildEventLogBody pktId s.appSerial susyId serial startUnix endUnix))
  collectFragments pktId 32 []

/-! ## Closing -/

def close : SessionM T Unit := fun s =>
  match Transport.close s.transport with
  | (.ok _, t) => .ok () { s with state := .disconnected, transport := t }
  | (.error e, t) => .error (.transport e) { s with state := .disconnected, transport := t }

def gracefulClose : SessionM T Unit := do
  let s ← get
  if s.state = .loggedIn then
    let pktId ← nextPcktid
    -- a send that fails is logged and swallowed
    let _ ← attempt (sendFrame (l2Wire s.cfg.localBt (buildLogoffBody pktId s.appSerial)))
    close
  else close

end Session

end HassSma
