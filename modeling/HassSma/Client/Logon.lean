/-
  The logon step (`handshake_and_logon`, step 7, in `inverter-client/src/session.rs`).

  The logon goes to every device on the piconet, and each answers with a code.  The loop takes replies
  until one has code zero and remembers the last rejection; a receive error ends it.

  1. **One reply** — `run_logonReplyLoop_cons`: accepted, or remembered.
  2. **A run of replies** — `run_logonReplyLoop`, by induction on the replies: the loop sees a code zero
     if there is one, and otherwise ends with the code of the last reply.
  3. **The step** — `logonOutcome_eq`: the outcome is a function of the list of codes, and
     `logon_any_order` says what of it does not depend on the order of the replies.
-/
import HassSma.Client.Receive

namespace HassSma

open Bytes Fallible Polling

namespace Session

variable {T : Type} [Transport T]

/-- A frame the logon loop takes for a reply to its packet, with this code. -/
def IsLogonReply (pktId : UInt16) (raw : List UInt8) (code : UInt16) : Prop :=
  ∃ frame hdr data, Frame.parse raw = .ok frame ∧ frame.control = 0x0001 ∧
    decodeL2 frame.payload = some (hdr, data) ∧ hdr.pktId = pktId ∧ hdr.errorCode = code

/-- The transport delivers these frames, and then a receive times out. -/
def ThenSilent (s : Session T) (raws : List (List UInt8)) : Prop :=
  ∃ t t' ms, Delivers s.frames s.transport raws t ∧ s.frames t = (.error (.timeout ms), t')

/-- The logon step, without the accepting reply, which only goes into a log line. -/
def logonOutcome (pktId : UInt16) (s : Session T) : Except SessionError Unit :=
  (value ((recvLogonReply pktId).run s)).map fun _ => ()

/-! ## One reply -/

/-- A well-formed frame with the control word is what the receive loop returns. -/
theorem run_recvUntilL1Ctrl_next {s : Session T} {raw : List UInt8} {t : T} {frame : Frame}
    (hnext : s.frames s.transport = (.ok raw, t)) (hparse : Frame.parse raw = .ok frame)
    (phase : String) :
    (recvUntilL1Ctrl frame.control phase).run s = .ok raw { s with transport := t } := by
  have hmatch : ctrlMatch frame.control raw = some raw :=
    ctrlMatch_eq_some.mpr ⟨rfl, frame, hparse, rfl⟩
  have hdel : Delivers s.frames s.transport ([] ++ [raw]) t := .cons hnext (.nil t)
  rw [run_recvUntilL1Ctrl, poll_found hdel (by simp) hmatch (by decide)]
  rfl

theorem run_recvUntilL1Ctrl_error {s : Session T} {e : TransportError} {t : T}
    (hnext : s.frames s.transport = (.error e, t)) (ctrl : UInt16) (phase : String) :
    (recvUntilL1Ctrl ctrl phase).run s = .error (recvError phase e) { s with transport := t } := by
  rw [run_recvUntilL1Ctrl, poll_error (.nil _) (by simp) hnext (by decide)]
  rfl

/-- **One reply**: code zero is accepted, any other code is the last rejection now. -/
theorem run_logonReplyLoop_cons {pktId code : UInt16} {raw : List UInt8}
    (hreply : IsLogonReply pktId raw code) {s : Session T} {t : T}
    (hnext : s.frames s.transport = (.ok raw, t)) (n : Nat) (last : Option L2Reply) :
    ∃ reply : L2Reply, reply.errorCode = code ∧
      (logonReplyLoop pktId (n + 1) last).run s =
        if code = 0 then .ok (some reply, last) { s with transport := t }
        else (logonReplyLoop pktId n (some reply)).run { s with transport := t } := by
  obtain ⟨frame, hdr, data, hparse, hctrl, hdec, hid, hcode⟩ := hreply
  have hrecv := run_recvUntilL1Ctrl_next hnext hparse "logon"
  rw [hctrl] at hrecv
  refine ⟨replyOf hdr data, hcode, ?_⟩
  have hcode' : (replyOf hdr data).errorCode = code := hcode
  rw [logonReplyLoop, EStateM.run_bind, run_attempt, hrecv]
  simp only [value_ok, final_ok, hparse, hdec, hid, hcode', ne_eq, not_true_eq_false, if_false]
  split <;> rfl

/-! ## A run of replies -/

/-- The code the loop ends with when nothing accepts: that of the last reply, or the one before. -/
def lastCode (codes : List UInt16) (last : Option L2Reply) : Option UInt16 :=
  codes.getLast?.or (last.map (·.errorCode))

theorem lastCode_cons (code : UInt16) (codes : List UInt16) (last : Option L2Reply)
    {reply : L2Reply} (h : reply.errorCode = code) :
    lastCode (code :: codes) last = lastCode codes (some reply) := by
  rw [lastCode, lastCode, Option.map_some, h, List.getLast?_cons]
  cases codes.getLast? <;> rfl

/-- **A run of replies**, and then silence: the loop accepts exactly if some code is zero, and
    otherwise it ends with the last code. -/
theorem run_logonReplyLoop {pktId : UInt16} {replies : List (List UInt8 × UInt16)} {n : Nat}
    (hreplies : ∀ r ∈ replies, IsLogonReply pktId r.1 r.2) (hn : replies.length ≤ n)
    {s : Session T} (hsilent : ThenSilent s (replies.map Prod.fst)) (last : Option L2Reply) :
    ∃ accepted rejected s', (logonReplyLoop pktId n last).run s = .ok (accepted, rejected) s' ∧
      (accepted.isSome ↔ 0 ∈ replies.map Prod.snd) ∧
      (0 ∉ replies.map Prod.snd →
        rejected.map (·.errorCode) = lastCode (replies.map Prod.snd) last) := by
  induction replies generalizing n s last with
  | nil =>
    obtain ⟨t, t', ms, hdel, htimeout⟩ := hsilent
    cases hdel
    cases n with
    | zero => exact ⟨none, last, s, rfl, by simp, fun _ => rfl⟩
    | succ n =>
      refine ⟨none, last, { s with transport := t' }, ?_, by simp, fun _ => rfl⟩
      rw [logonReplyLoop, EStateM.run_bind, run_attempt, run_recvUntilL1Ctrl_error htimeout]
      rfl
  | cons r replies ih =>
    obtain ⟨raw, code⟩ := r
    rw [List.forall_mem_cons] at hreplies
    rw [List.length_cons] at hn
    obtain ⟨t, t', ms, hdel, htimeout⟩ := hsilent
    obtain ⟨m, rfl⟩ := Nat.exists_eq_succ_of_ne_zero (show n ≠ 0 by omega)
    cases hdel with
    | @cons _ t₁ _ _ _ hnext hrest =>
      obtain ⟨reply, hcode, hstep⟩ := run_logonReplyLoop_cons hreplies.1 hnext m last
      rw [Nat.succ_eq_add_one, hstep]
      by_cases hzero : code = 0
      · rw [if_pos hzero]
        refine ⟨some reply, last, _, rfl, ?_, ?_⟩
        · simp [hzero]
        · intro hnot
          exact absurd (by simp [hzero]) hnot
      · rw [if_neg hzero]
        obtain ⟨accepted, rejected, s', hrun, hacc, hrej⟩ := ih (n := m)
          (s := { s with transport := t₁ }) hreplies.2 (by omega) ⟨t, t', ms, hrest, htimeout⟩
          (some reply)
        refine ⟨accepted, rejected, s', hrun, ?_, ?_⟩
        · rw [hacc, List.map_cons, List.mem_cons, eq_comm (a := (0 : UInt16))]
          simp [hzero]
        · intro hnot
          rw [List.map_cons, List.mem_cons, not_or] at hnot
          rw [hrej hnot.2, List.map_cons, lastCode_cons code _ last hcode]

/-! ## The step -/

/-- What the codes alone say about the logon. -/
def outcomeOf (codes : List UInt16) : Except SessionError Unit :=
  if 0 ∈ codes then .ok ()
  else
    match codes.getLast? with
    | some code => .error (.logonFailed code)
    | none => .error (.silent "logon")

/-- **The logon step is a function of the codes**, in the order they arrive. -/
theorem logonOutcome_eq {pktId : UInt16} {replies : List (List UInt8 × UInt16)}
    (hreplies : ∀ r ∈ replies, IsLogonReply pktId r.1 r.2) (hlen : replies.length ≤ 16)
    {s : Session T} (hsilent : ThenSilent s (replies.map Prod.fst)) :
    logonOutcome pktId s = outcomeOf (replies.map Prod.snd) := by
  obtain ⟨accepted, rejected, s', hrun, hacc, hrej⟩ :=
    run_logonReplyLoop hreplies hlen hsilent none
  rw [logonOutcome, recvLogonReply, bind_of_ok hrun, outcomeOf]
  cases accepted with
  | some reply =>
    rw [if_pos (hacc.mp rfl)]
    rfl
  | none =>
    have hnone : 0 ∉ replies.map Prod.snd := fun hmem => nomatch hacc.mpr hmem
    have hlast := hrej hnone
    rw [lastCode, Option.map_none, Option.or_none] at hlast
    rw [if_neg hnone, ← hlast]
    cases rejected with
    | none => rfl
    | some rej =>
      simp only [Option.map_some]
      split
      · rename_i hcode
        rw [hcode]
        rfl
      · rfl

/-- What `outcomeOf` is when nothing accepts. -/
theorem outcomeOf_rejected {codes : List UInt16} (hzero : 0 ∉ codes) {code : UInt16}
    (hlast : codes.getLast? = some code) : outcomeOf codes = .error (.logonFailed code) := by
  rw [outcomeOf, if_neg hzero, hlast]

/-- **The logon in any order.**  Replies (at most sixteen, at least one) come in some order, and then
    nothing.  If some device accepts, the logon succeeds, whatever the order.  If none does, it
    fails with the code of one of the replies; without an invalid-password code among them that
    is the reply that came last, and when all devices answer alike it is their code. -/
theorem logon_any_order {pktId : UInt16} {replies order : List (List UInt8 × UInt16)}
    (hperm : order.Perm replies) (hne : replies ≠ []) (hlen : replies.length ≤ 16)
    (hreplies : ∀ r ∈ replies, IsLogonReply pktId r.1 r.2) {s : Session T}
    (hsilent : ThenSilent s (order.map Prod.fst)) :
    ((∃ r ∈ replies, r.2 = 0) → logonOutcome pktId s = .ok ()) ∧
      ((∀ r ∈ replies, r.2 ≠ 0) →
        (∃ r ∈ replies, logonOutcome pktId s = .error (.logonFailed r.2)) ∧
        ((∀ r ∈ replies, r.2 ≠ 0x0100) → ∀ r, order.getLast? = some r →
          logonOutcome pktId s = .error (.logonFailed r.2)) ∧
        ∀ code, (∀ r ∈ replies, r.2 = code) →
          logonOutcome pktId s = .error (.logonFailed code)) := by
  have hspec := logonOutcome_eq (fun r hr => hreplies r (hperm.mem_iff.mp hr))
    (hperm.length_eq ▸ hlen) hsilent
  have hmem : ∀ code, code ∈ order.map Prod.snd ↔ ∃ r ∈ replies, r.2 = code := by
    intro code
    rw [(hperm.map Prod.snd).mem_iff, List.mem_map]
  rw [hspec]
  constructor
  · intro hzero
    exact if_pos ((hmem 0).mpr hzero)
  · intro hnonzero
    have hzero : 0 ∉ order.map Prod.snd := by
      rw [hmem 0]
      rintro ⟨r, hr, hcode⟩
      exact hnonzero r hr hcode
    have hrejected : ∀ r, order.getLast? = some r →
        outcomeOf (order.map Prod.snd) = .error (.logonFailed r.2) := by
      intro r hr
      exact outcomeOf_rejected hzero (by rw [List.getLast?_map, hr, Option.map_some])
    have hnil : order ≠ [] := fun hnil => hne (hperm.symm.trans (hnil ▸ .refl _)).eq_nil
    obtain ⟨last, hlast⟩ : ∃ last, order.getLast? = some last :=
      ⟨order.getLast hnil, List.getLast?_eq_some_getLast hnil⟩
    have hlastMem : last ∈ replies := hperm.mem_iff.mp (List.mem_of_getLast? hlast)
    refine ⟨⟨last, hlastMem, hrejected last hlast⟩, fun _ => hrejected, fun code hall => ?_⟩
    rw [← hall last hlastMem]
    exact hrejected last hlast

/-! ## Where the outcome comes from -/

/-- A frame that the receive loop takes has the control word, and comes after frames that have not. -/
theorem recvUntilL1Ctrl_delivers {wantCtrl : UInt16} {phase : String} {bytes : List UInt8}
    {s s' : Session T} (h : (recvUntilL1Ctrl wantCtrl phase).run s = .ok bytes s') :
    (∃ frame, Frame.parse bytes = .ok frame ∧ frame.control = wantCtrl) ∧
      ∃ others t, Delivers s.frames s.transport (others ++ [bytes]) t ∧ s' = { s with transport := t } := by
  rw [run_recvUntilL1Ctrl] at h
  obtain ⟨t, hpoll, rfl⟩ := polled_eq_ok.mp h
  obtain ⟨others, last, -, hdel, -, hmatch⟩ := poll_eq_ok_iff.mp hpoll
  obtain ⟨rfl, hframe⟩ := ctrlMatch_eq_some.mp hmatch
  exact ⟨hframe, others, t, hdel, rfl⟩

/-- Where the loop's result comes from, if it started with the rejection `last`: an accepting reply is
    the last frame received; a rejection is the one before, or one received and then only more
    receives, which is what `R` says. -/
def Sourced (R : Session T → Session T → Prop) (pktId : UInt16) (last accepted rejected : Option L2Reply)
    (s s' : Session T) : Prop :=
  (∀ reply, accepted = some reply → ∃ raws raw t,
      Delivers s.frames s.transport (raws ++ [raw]) t ∧ s' = { s with transport := t } ∧
        IsLogonReply pktId raw 0) ∧
    ∀ reply, rejected = some reply → last = some reply ∨ ∃ raws raw t,
      Delivers s.frames s.transport (raws ++ [raw]) t ∧ R { s with transport := t } s' ∧
        IsLogonReply pktId raw reply.errorCode

/-- More frames in front change nothing, as long as a new rejection is one of them. -/
theorem Sourced.behind {R : Session T → Session T → Prop} {pktId : UInt16}
    {last last' accepted rejected : Option L2Reply} {s s' : Session T} {others : List (List UInt8)}
    {bytes : List UInt8} {t : T}
    (h : Sourced R pktId last' accepted rejected { s with transport := t } s')
    (hdel : Delivers s.frames s.transport (others ++ [bytes]) t) (hmore : R { s with transport := t } s')
    (hlast : ∀ reply, last' = some reply →
      last = some reply ∨ IsLogonReply pktId bytes reply.errorCode) :
    Sourced R pktId last accepted rejected s s' := by
  obtain ⟨hacc, hrej⟩ := h
  constructor
  · intro reply hreply
    obtain ⟨raws, raw, t', hdel', hs', hraw⟩ := hacc reply hreply
    refine ⟨others ++ [bytes] ++ raws, raw, t', ?_, hs', hraw⟩
    rw [List.append_assoc]
    exact hdel.append hdel'
  · intro reply hreply
    rcases hrej reply hreply with hstart | ⟨raws, raw, t', hdel', hmore', hraw⟩
    · rcases hlast reply hstart with hbefore | hnow
      · exact .inl hbefore
      · exact .inr ⟨others, bytes, t, hdel, hmore, hnow⟩
    · refine .inr ⟨others ++ [bytes] ++ raws, raw, t', ?_, hmore', hraw⟩
      rw [List.append_assoc]
      exact hdel.append hdel'

/-- **What the loop ends with** comes from the frames it received. -/
theorem logonReplyLoop_sourced {R : Session T → Session T → Prop} (hrefl : ∀ s, R s s)
    (htrans : ∀ {s t u}, R s t → R t u → R s u)
    (hrecv : ∀ phase, Keeps R (recvFrame phase : SessionM T (List UInt8))) {pktId : UInt16} {n : Nat}
    {last accepted rejected : Option L2Reply} {s s' : Session T}
    (h : (logonReplyLoop pktId n last).run s = .ok (accepted, rejected) s') :
    Sourced R pktId last accepted rejected s s' := by
  induction n generalizing last s with
  | zero =>
    obtain ⟨hpair, -⟩ := EStateM.Result.ok.inj h
    obtain ⟨rfl, rfl⟩ := Prod.mk.inj hpair
    exact ⟨nofun, fun reply hreply => .inl hreply⟩
  | succ n ih =>
    -- the rest of the loop only receives
    have hrest : ∀ {last s₁}, (logonReplyLoop pktId n last).run s₁ = .ok (accepted, rejected) s' →
        R s₁ s' := by
      intro last s₁ hrun
      have hkept := keeps_logonReplyLoop hrefl htrans hrecv pktId n last s₁
      rw [hrun] at hkept
      exact hkept
    rw [logonReplyLoop, EStateM.run_bind, run_attempt] at h
    cases hreceive : (recvUntilL1Ctrl 0x0001 "logon").run s with
    | error e s₁ =>
      rw [hreceive] at h
      obtain ⟨hpair, -⟩ := EStateM.Result.ok.inj h
      obtain ⟨rfl, rfl⟩ := Prod.mk.inj hpair
      exact ⟨nofun, fun reply hreply => .inl hreply⟩
    | ok bytes s₁ =>
      rw [hreceive] at h
      obtain ⟨⟨frame, hparse, hctrl⟩, others, t₁, hdel, rfl⟩ := recvUntilL1Ctrl_delivers hreceive
      simp only [value_ok, final_ok, hparse] at h
      cases hdec : decodeL2 frame.payload with
      | none =>
        rw [hdec] at h
        exact (ih h).behind hdel (hrest h) fun _ hreply => .inl hreply
      | some p =>
        obtain ⟨hdr, data⟩ := p
        rw [hdec] at h
        simp only at h
        split at h
        · exact (ih h).behind hdel (hrest h) fun _ hreply => .inl hreply
        · rename_i hid
          have hreply : IsLogonReply pktId bytes hdr.errorCode :=
            ⟨frame, hdr, data, hparse, hctrl, hdec, not_not.mp hid, rfl⟩
          split at h
          · rename_i hcode
            obtain ⟨hpair, rfl⟩ := EStateM.Result.ok.inj h
            obtain ⟨rfl, rfl⟩ := Prod.mk.inj hpair
            rw [show hdr.errorCode = 0 from hcode] at hreply
            exact ⟨fun _ _ => ⟨others, bytes, t₁, hdel, rfl, hreply⟩, fun reply hlast => .inl hlast⟩
          · refine (ih h).behind hdel (hrest h) fun reply hlast => .inr ?_
            rw [← Option.some.inj hlast]
            exact hreply

/-- An accepted logon: the last frame received is the accepting reply. -/
theorem recvLogonReply_delivers {pktId : UInt16} {reply : L2Reply} {s s' : Session T}
    (h : (recvLogonReply pktId).run s = .ok reply s') :
    ∃ raws raw t, Delivers s.frames s.transport (raws ++ [raw]) t ∧ s' = { s with transport := t } ∧
      IsLogonReply pktId raw 0 := by
  rw [recvLogonReply] at h
  obtain ⟨⟨accepted, rejected⟩, s₁, hloop, hrest⟩ := bind_eq_ok.mp h
  cases accepted with
  | some reply' =>
    obtain ⟨-, rfl⟩ := EStateM.Result.ok.inj hrest
    exact (logonReplyLoop_sourced (R := fun _ _ => True) (fun _ => trivial) (fun _ _ => trivial)
      (fun _ _ => trivial) hloop).1 reply' rfl
  | none =>
    cases rejected with
    | none => cases hrest
    | some rej =>
      simp only at hrest
      split at hrest <;> cases hrest

/-- The loop itself never fails: a receive error ends it. -/
theorem logonReplyLoop_ok (pktId : UInt16) (n : Nat) (last : Option L2Reply) (s : Session T) :
    ∃ p s', (logonReplyLoop pktId n last).run s = .ok p s' := by
  induction n generalizing last s with
  | zero => exact ⟨_, s, rfl⟩
  | succ n ih =>
    rw [logonReplyLoop, EStateM.run_bind, run_attempt]
    cases value ((recvUntilL1Ctrl 0x0001 "logon").run s) with
    | error e => exact ⟨_, _, rfl⟩
    | ok bytes =>
      simp only
      cases Frame.parse bytes with
      | error e => exact ih _ _
      | ok frame =>
        simp only
        cases decodeL2 frame.payload with
        | none => exact ih _ _
        | some p =>
          simp only
          split
          · exact ih _ _
          · split
            · exact ⟨_, _, rfl⟩
            · exact ih _ _

/-- A failed logon: the code is that of a frame received. -/
theorem recvLogonReply_rejected {R : Session T → Session T → Prop} (hrefl : ∀ s, R s s)
    (htrans : ∀ {s t u}, R s t → R t u → R s u)
    (hrecv : ∀ phase, Keeps R (recvFrame phase : SessionM T (List UInt8))) {pktId code : UInt16}
    {s s' : Session T} (h : (recvLogonReply pktId).run s = .error (.logonFailed code) s') :
    ∃ raws raw t, Delivers s.frames s.transport (raws ++ [raw]) t ∧ R { s with transport := t } s' ∧
      IsLogonReply pktId raw code := by
  obtain ⟨⟨accepted, rejected⟩, s₁, hloop⟩ := logonReplyLoop_ok pktId 16 none s
  have hsourced := (logonReplyLoop_sourced hrefl htrans hrecv hloop).2
  rw [recvLogonReply, bind_of_ok hloop] at h
  cases accepted with
  | some reply => nomatch h
  | none =>
    cases rejected with
    | none => nomatch (EStateM.Result.error.inj h).1
    | some rej =>
      have hcode : rej.errorCode = code ∧ s₁ = s' := by
        simp only at h
        split at h
        · rename_i hinvalid
          obtain ⟨hcode, hs⟩ := EStateM.Result.error.inj h
          exact ⟨hinvalid.trans (SessionError.logonFailed.inj hcode), hs⟩
        · obtain ⟨hcode, hs⟩ := EStateM.Result.error.inj h
          exact ⟨SessionError.logonFailed.inj hcode, hs⟩
      obtain ⟨rfl, rfl⟩ := hcode
      rcases hsourced rej rfl with hstart | hreceived
      · nomatch hstart
      · exact hreceived

/-! ## Examples -/

/-- A session whose transport delivers these frames and then falls silent. -/
def silentSession (inbox : List (List UInt8)) : Session SilentPeer :=
  { transport := ⟨inbox⟩
    cfg := ⟨.fill 0, .fill 0, "", .user, 1000⟩
    state := .enumerating
    appSerial := 900000000
    pcktid := 3
    inverterSusyId := 0
    inverterSerial := 0 }

/-- A reply to the logon with packet id 3. -/
def logonReply (code : UInt16) : List UInt8 :=
  l2Wire (.fill 1) (encodeL2 { L2Header.logon 3 900000000 with errorCode := code } [])

theorem isLogonReply_logonReply (code : UInt16) : IsLogonReply 3 (logonReply code) code :=
  ⟨_, _, _, parse_l2Wire _ _ (by decide), rfl, decodeL2_encodeL2 _ _,
    show wirePktId 3 = 3 by decide, rfl⟩

theorem thenSilent_silentSession (inbox : List (List UInt8)) :
    ThenSilent (silentSession inbox) inbox := by
  have hdel := SilentPeer.delivers 1000 inbox []
  rw [List.append_nil] at hdel
  exact ⟨⟨[]⟩, ⟨[]⟩, 1000, hdel, rfl⟩

/-- A reply with each of these codes, next to its code. -/
def logonReplies (codes : List UInt16) : List (List UInt8 × UInt16) :=
  codes.map fun code => (logonReply code, code)

theorem isLogonReply_logonReplies (codes : List UInt16) :
    ∀ r ∈ logonReplies codes, IsLogonReply 3 r.1 r.2 := by
  intro r hr
  obtain ⟨code, -, rfl⟩ := List.mem_map.mp hr
  exact isLogonReply_logonReply code

theorem logon_any_order_two_devices :
    logonOutcome 3 (silentSession ((logonReplies [0, 1]).map Prod.fst)) = .ok () ∧
      logonOutcome 3 (silentSession ((logonReplies [2, 1]).map Prod.fst))
        = .error (.logonFailed 1) :=
  ⟨(logon_any_order (List.Perm.swap _ _ []) (by decide) (by decide)
      (isLogonReply_logonReplies [1, 0]) (thenSilent_silentSession _)).1
      ⟨(logonReply 0, 0), by simp, rfl⟩,
    ((logon_any_order (List.Perm.swap _ _ []) (by decide) (by decide)
      (isLogonReply_logonReplies [1, 2]) (thenSilent_silentSession _)).2
      (by simp)).2.1 (by simp) (logonReply 1, 1) rfl⟩

/-- Two devices reject the logon with codes 1 and 2; the code reported is that of the later one, so
    it changes with the order. -/
theorem logon_order_matters :
    (∀ r ∈ logonReplies [1, 2], IsLogonReply 3 r.1 r.2) ∧
      (logonReplies [2, 1]).Perm (logonReplies [1, 2]) ∧
      ThenSilent (silentSession ((logonReplies [1, 2]).map Prod.fst))
        ((logonReplies [1, 2]).map Prod.fst) ∧
      ThenSilent (silentSession ((logonReplies [2, 1]).map Prod.fst))
        ((logonReplies [2, 1]).map Prod.fst) ∧
      logonOutcome 3 (silentSession ((logonReplies [1, 2]).map Prod.fst))
        ≠ logonOutcome 3 (silentSession ((logonReplies [2, 1]).map Prod.fst)) := by
  refine ⟨isLogonReply_logonReplies _, List.Perm.swap _ _ [], thenSilent_silentSession _,
    thenSilent_silentSession _, ?_⟩
  rw [logonOutcome_eq (isLogonReply_logonReplies [1, 2]) (by decide) (thenSilent_silentSession _),
    logonOutcome_eq (isLogonReply_logonReplies [2, 1]) (by decide) (thenSilent_silentSession _)]
  decide

end Session

end HassSma
