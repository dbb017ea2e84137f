/-
  Yielding the session to a peer (`yield_every` of `run_inverter` in `daemon/src/main.rs`).

  Every N-th tick of a session closes it instead of polling, and behind the loop it is closed again.
  A session that yields is to have measured before, and to log off once.

  1. **LOGOFFs** — `Session.gracefulClose_logoffs`: a graceful close sends one if the session is
     logged in, and nothing else does (`LinkKeeps`, which every question to the link satisfies).
  2. **Ticks** — `TicksCounted`: while a session with `yield_every` N polls, its counter is the number of
     its ticks, and there have been fewer than N of them.  So it is tick number N that yields.
  3. **Sweeps** — `swept_before_tick`: in front of any tick but the first, every target has been
     queried.
  4. `yields_fairly_iff` puts them together: a session with N = 1 closes at its first tick, before
     anybody was asked for a value; any other yields as it should.

  All of it holds over any publisher.
-/
import HassSma.Client.Lifecycle
import HassSma.Daemon.Cooldown

namespace HassSma

open Bytes Fallible History

/-! ## LOGOFFs -/

namespace Session

variable {T : Type}

/-- The LOGOFFs a session has sent, or attempted to send. -/
def logoffCount (s : Session (Recorder T)) : Nat := s.transport.log.countP isLogoff

/-- No LOGOFF went out, and nobody was logged in or out. -/
structure NoLogoff (s s' : Session (Recorder T)) : Prop where
  count_eq : s'.logoffCount = s.logoffCount
  state_eq : s'.state = s.state

theorem noLogoff_refl (s : Session (Recorder T)) : NoLogoff s s := ⟨rfl, rfl⟩

theorem noLogoff_trans {s s' s'' : Session (Recorder T)} (h : NoLogoff s s')
    (h' : NoLogoff s' s'') : NoLogoff s s'' :=
  ⟨h'.count_eq.trans h.count_eq, h'.state_eq.trans h.state_eq⟩

/-- A log grows by one event. -/
theorem noLogoff_of_log {s s' : Session (Recorder T)} {ev : IoEvent}
    (hlog : s'.transport.log = s.transport.log ++ [ev]) (hev : isLogoff ev = false)
    (hstate : s'.state = s.state) : NoLogoff s s' := by
  refine ⟨?_, hstate⟩
  rw [logoffCount, hlog, List.countP_append, List.countP_cons_of_neg (by rw [hev]; decide)]
  rfl

theorem noLogoff_nextPcktid : Keeps NoLogoff (nextPcktid : SessionM (Recorder T) UInt16) :=
  fun _ => ⟨rfl, rfl⟩

theorem noLogoff_ensure (c : Prop) [Decidable c] (e : SessionError) :
    Keeps NoLogoff (ensure c e : SessionM (Recorder T) Unit) := by
  unfold ensure
  split
  · exact keeps_pure noLogoff_refl _
  · exact keeps_throw noLogoff_refl _

variable [Transport T]

theorem noLogoff_recvFrame (phase : String) :
    Keeps NoLogoff (recvFrame phase : SessionM (Recorder T) (List UInt8)) := by
  intro s
  rw [final_recvFrame]
  exact noLogoff_of_log (Recorder.recvFrame_log s.transport s.cfg.timeoutMs) rfl rfl

theorem noLogoff_sendFrame {data : List UInt8} (h : IsQueryFrame data) :
    Keeps NoLogoff (sendFrame data : SessionM (Recorder T) Nat) := by
  intro s
  rw [final_sendFrame]
  refine noLogoff_of_log (Recorder.sendFrame_log s.transport data) ?_ rfl
  obtain ⟨word, hword, hquery⟩ := h
  refine decide_eq_false fun hlogoff => ?_
  obtain rfl := Option.some.inj (hword.symm.trans hlogoff)
  exact not_isQueryCommand (.inr (.inl rfl)) hquery

/-- A query sends no LOGOFF. -/
theorem noLogoff_queryForDevice (susyId : UInt16) (serial : UInt32) (kind : QueryKind) :
    Keeps NoLogoff (queryForDevice susyId serial kind : SessionM (Recorder T) (List UInt8)) := by
  have hframe : ∀ (s : Session (Recorder T)) (pktId : UInt16), IsQueryFrame
      (l2Wire s.cfg.localBt (buildQueryBody kind pktId s.appSerial susyId serial)) := by
    intro s pktId
    rw [buildQueryBody, List.append_assoc]
    exact ⟨_, commandOf_l2Wire _ _ _ (by simp), .inr ⟨kind, rfl⟩⟩
  refine Keeps.bind (R := NoLogoff) noLogoff_trans (keeps_get noLogoff_refl) fun s => ?_
  refine Keeps.bind (R := NoLogoff) noLogoff_trans (noLogoff_ensure _ _) fun _ => ?_
  refine Keeps.bind (R := NoLogoff) noLogoff_trans noLogoff_nextPcktid fun pktId => ?_
  refine Keeps.bind (R := NoLogoff) noLogoff_trans (noLogoff_sendFrame (hframe s pktId)) fun _ => ?_
  refine Keeps.bind (R := NoLogoff) noLogoff_trans ?_ fun p => keeps_pure noLogoff_refl _
  exact keeps_recvL2WithPktId noLogoff_refl noLogoff_trans noLogoff_recvFrame _ _

theorem noLogoff_queryEventLogForDevice (susyId : UInt16) (serial startUnix endUnix : UInt32) :
    Keeps NoLogoff (queryEventLogForDevice susyId serial startUnix endUnix :
      SessionM (Recorder T) (List UInt8)) := by
  have hframe : ∀ (s : Session (Recorder T)) (pktId : UInt16), IsQueryFrame
      (l2Wire s.cfg.localBt
        (buildEventLogBody pktId s.appSerial susyId serial startUnix endUnix)) := by
    intro s pktId
    rw [buildEventLogBody, List.append_assoc]
    exact ⟨_, commandOf_l2Wire _ _ _ (by simp), .inl rfl⟩
  refine Keeps.bind (R := NoLogoff) noLogoff_trans (keeps_get noLogoff_refl) fun s => ?_
  refine Keeps.bind (R := NoLogoff) noLogoff_trans (noLogoff_ensure _ _) fun _ => ?_
  refine Keeps.bind (R := NoLogoff) noLogoff_trans noLogoff_nextPcktid fun pktId => ?_
  refine Keeps.bind (R := NoLogoff) noLogoff_trans (noLogoff_sendFrame (hframe s pktId)) fun _ => ?_
  exact keeps_collectFragments noLogoff_refl noLogoff_trans noLogoff_recvFrame _ _ _

/-- **A graceful close** sends a LOGOFF exactly if the session is logged in, and ends it. -/
theorem gracefulClose_logoffs (s : Session (Recorder T)) :
    (final (gracefulClose.run s)).logoffCount = s.logoffCount + owed s ∧
      (final (gracefulClose.run s)).state = .disconnected := by
  obtain ⟨io, hlog, -, hstate, hcount⟩ := gracefulClose_spec s
  refine ⟨?_, hstate⟩
  rw [logoffCount, hlog, List.countP_append, hcount]
  rfl

end Session

/-! ## What every question keeps -/

/-- A preorder that every operation of a link keeps, but for the closing. -/
structure LinkKeeps {σ : Type} [Link σ] (R : σ → σ → Prop) : Prop where
  refl : ∀ l, R l l
  trans : ∀ {l l' l''}, R l l' → R l' l'' → R l l''
  query : ∀ l susyId serial kind, R l (Link.queryForDevice l susyId serial kind).2
  eventLog : ∀ l susyId serial start stop,
    R l (Link.queryEventLogForDevice l susyId serial start stop).2
  instant : ∀ l, R l (Link.instantNow l).2
  utc : ∀ l, R l (Link.utcNow l).2

/-- A watched link keeps what the link keeps. -/
theorem LinkKeeps.watched {σ : Type} [Link σ] {R : σ → σ → Prop} (h : LinkKeeps R) :
    LinkKeeps fun w w' : Watched σ => R w.link w'.link where
  refl w := h.refl w.link
  trans := h.trans
  query w := h.query w.link
  eventLog w := h.eventLog w.link
  instant w := h.instant w.link
  utc w := h.utc w.link

/-- The questions of a live session send no LOGOFF. -/
theorem LiveLink.linkKeeps {T : Type} [Transport T] :
    LinkKeeps fun l l' : LiveLink (Recorder T) => Session.NoLogoff l.session l'.session where
  refl l := Session.noLogoff_refl l.session
  trans := Session.noLogoff_trans
  query l susyId serial kind := Session.noLogoff_queryForDevice susyId serial kind l.session
  eventLog l susyId serial start stop :=
    Session.noLogoff_queryEventLogForDevice susyId serial start stop l.session
  instant l := Session.noLogoff_refl l.session
  utc l := Session.noLogoff_refl l.session

namespace LinkKeeps

variable {σ : Type} [Link σ] {R : σ → σ → Prop} (h : LinkKeeps R)
include h

theorem foldl {ι : Type} {f : σ → ι → σ} (hf : ∀ l a, R l (f l a)) (as : List ι) (l : σ) :
    R l (as.foldl f l) := by
  induction as generalizing l with
  | nil => exact h.refl l
  | cons a as ih => exact h.trans (hf l a) (ih (f l a))

/-- Up to the first tick. -/
theorem atFirstTick (cfg : InverterCfg) (targets : List Target) (link : σ) :
    R link (Task.linkAtFirstTick cfg targets link) := by
  have hlog : R link (Task.linkAfterEventLog cfg targets link) := by
    unfold Task.linkAfterEventLog
    split
    · exact h.trans (h.utc link) (h.foldl (fun l t => h.eventLog l _ _ _ _) targets _)
    · exact h.refl link
  have hidentity : ∀ link, R link (Task.linkAfterIdentity targets link) :=
    h.foldl (fun l t => h.foldl (fun l kind => h.query l _ _ kind) _ l) targets
  exact h.trans (h.trans hlog (hidentity _)) (h.utc _)

/-- A turn keeps what the link keeps, as it does nothing else to it. -/
theorem turnKeeps (say : Publisher) :
    Task.TurnKeeps say fun w w' : Task σ => R w.link w'.link where
  refl w := h.refl w.link
  trans := h.trans
  query t kind w := h.query w.link t.susyId t.serial kind
  instant w := h.instant w.link
  utc w := h.utc w.link
  publish identity sensorKey value w := by
    have hlink : (final ((Task.sayValue say identity sensorKey value).run w)).link = w.link :=
      Task.keeps_link_sayValue say identity sensorKey value w
    show R w.link (final ((Task.sayValue say identity sensorKey value).run w)).link
    rw [hlink]
    exact h.refl w.link

end LinkKeeps

/-! ## Ticks -/

def LoopCall.isTick : LoopCall → Bool
  | .tick => true
  | .turn _ => false

section

variable {σ : Type}

def isTick (e : LoopEntry σ) : Bool := e.call.isTick

/-- How many ticks there have been. -/
def ticksOf (past : List (LoopEntry σ)) : Nat := past.countP isTick

theorem call_of_isTick {e : LoopEntry σ} (h : isTick e = true) : e.call = .tick := by
  rw [isTick] at h
  cases hcall : e.call with
  | tick => rfl
  | turn t =>
    rw [hcall] at h
    cases h

/-- A counter below another one does not wrap. -/
theorem toNat_succ {n m : UInt32} (h : n.toNat < m.toNat) : (n + 1).toNat = n.toNat + 1 := by
  have hlt := m.toNat_lt
  rw [UInt32.toNat_add]
  exact Nat.mod_eq_of_lt (by show n.toNat + 1 < _; omega)

variable [Link σ] {p : PollSession}

omit [Link σ] in
/-- Below N, the next tick yields if it is number N. -/
theorem yields_iff {n : UInt32} (h : n.toNat < p.yieldEvery.toNat) :
    p.Yields n ↔ n.toNat + 1 = p.yieldEvery.toNat := by
  rw [PollSession.Yields, UInt32.lt_iff_toNat_lt, ← UInt32.toNat_inj, UInt32.toNat_mod, toNat_succ h]
  show 0 < p.yieldEvery.toNat ∧ (n.toNat + 1) % p.yieldEvery.toNat = 0 ↔ _
  constructor
  · rintro ⟨-, hmod⟩
    have hle := Nat.le_of_dvd (Nat.succ_pos n.toNat) (Nat.dvd_of_mod_eq_zero hmod)
    omega
  · intro heq
    rw [heq, Nat.mod_self]
    exact ⟨by omega, rfl⟩

/-- A turn yields nothing. -/
theorem turn_status_ne_yielded (t : Target) {s : LoopState σ} (h : s.status = .polling) :
    (p.turn t s).status ≠ .yielded := by
  rw [PollSession.turn]
  cases (Task.ownTurn p.say p.sessionStart t (s.poll.own t.serial)).run s.task with
  | error panic w => exact fun h => by cases h
  | ok own w =>
    cases own with
    | none => exact fun h => by cases h
    | some own =>
      rw [h]
      exact fun h => by cases h

theorem turn_pollCount (t : Target) (s : LoopState σ) :
    (p.turn t s).poll.pollCount = s.poll.pollCount := by
  rw [PollSession.turn]
  cases (Task.ownTurn p.say p.sessionStart t (s.poll.own t.serial)).run s.task with
  | error panic w => rfl
  | ok own w => cases own <;> rfl

variable {cs : List LoopCall} {s₀ : LoopState σ} {past future : List (LoopEntry σ)}
  {e : LoopEntry σ}

/-- Who polls has polled all along. -/
theorem polled_before (hrun : history p.step cs s₀ = past ++ e :: future)
    (hpolls : e.before.status = .polling) : ∀ d ∈ past, d.before.status = .polling := by
  refine history_before
    (I := fun past s => s.status = .polling → ∀ d ∈ past, d.before.status = .polling)
    ?_ (fun _ d hd => by cases hd) hrun hpolls
  intro past c s hI hafter d hd
  have hs : s.status = .polling := by
    by_contra hs
    have hstays : (entry p.step c s).after = s := if_neg hs
    exact hs (hstays ▸ hafter)
  rcases List.mem_append.mp hd with hd | hd
  · exact hI hs d hd
  · obtain rfl := List.mem_singleton.mp hd
    exact hs

/-- While the session polls, its counter is the number of its ticks, and these are fewer than N. -/
def TicksCounted (p : PollSession) (past : List (LoopEntry σ)) (s : LoopState σ) : Prop :=
  s.status = .polling →
    s.poll.pollCount.toNat = ticksOf past ∧ ticksOf past < p.yieldEvery.toNat

theorem ticksCounted_step (past : List (LoopEntry σ)) (c : LoopCall) (s : LoopState σ)
    (hI : TicksCounted p past s) :
    TicksCounted p (past ++ [entry p.step c s]) (entry p.step c s).after := by
  intro hafter
  by_cases hs : s.status = .polling
  · obtain ⟨hcount, hfew⟩ := hI hs
    cases c with
    | tick =>
      have hmore : ticksOf (past ++ [entry p.step .tick s]) = ticksOf past + 1 :=
        List.countP_append
      rw [after_tick hs] at hafter ⊢
      by_cases hyields : p.Yields s.poll.pollCount
      · rw [(tick_yields hyields).2] at hafter
        cases hafter
      · have hnot := mt (yields_iff (p := p) (by omega)).mpr hyields
        rw [tick_polls hyields, hmore, ← hcount]
        exact ⟨toNat_succ (m := p.yieldEvery) (by omega), by omega⟩
    | turn t =>
      have hsame : ticksOf (past ++ [entry p.step (.turn t) s]) = ticksOf past :=
        List.countP_append
      rw [after_turn t hs, turn_pollCount, hsame]
      exact ⟨hcount, hfew⟩
  · have hstays : (entry p.step c s).after = s := if_neg hs
    rw [hstays] at hafter
    exact absurd hafter hs

omit [Link σ] in
theorem ticksCounted_start (hyield : 0 < p.yieldEvery) (hstart : s₀.poll.pollCount = 0) :
    TicksCounted p [] s₀ := by
  intro _
  rw [hstart]
  exact ⟨rfl, UInt32.lt_iff_toNat_lt.mp hyield⟩

theorem ticks_before (hyield : 0 < p.yieldEvery) (hstart : s₀.poll.pollCount = 0)
    (hrun : history p.step cs s₀ = past ++ e :: future) (hpolls : e.before.status = .polling) :
    e.before.poll.pollCount.toNat = ticksOf past ∧ ticksOf past < p.yieldEvery.toNat :=
  history_before ticksCounted_step (ticksCounted_start hyield hstart) hrun hpolls

theorem ticksOf_history (cs : List LoopCall) (s : LoopState σ) :
    ticksOf (history p.step cs s) = cs.countP LoopCall.isTick := by
  conv_rhs => rw [← map_call_history p.step cs s]
  rw [List.countP_map]
  rfl

omit [Link σ] in
theorem countP_calls : p.calls.countP LoopCall.isTick = p.ticks := by
  have hturns : (p.targets.map LoopCall.turn).countP LoopCall.isTick = 0 := by
    rw [List.countP_eq_zero]
    intro c hc
    obtain ⟨t, -, rfl⟩ := List.mem_map.mp hc
    exact Bool.false_ne_true
  rw [PollSession.calls]
  generalize p.ticks = n
  induction n with
  | zero => rfl
  | succ n ih =>
    rw [List.replicate_succ, List.flatten_cons, List.countP_append, ih,
      List.countP_cons_of_pos rfl, hturns]
    omega

/-- **The tick that yields** is number N. -/
theorem yielded_iff (hyield : 0 < p.yieldEvery) (hstart : s₀.poll.pollCount = 0)
    (hrun : history p.step cs s₀ = past ++ e :: future) (hpolls : e.before.status = .polling) :
    e.after.status = .yielded ↔ isTick e = true ∧ ticksOf past + 1 = p.yieldEvery.toNat := by
  obtain ⟨hcount, hfew⟩ := ticks_before hyield hstart hrun hpolls
  have hentry := eq_entry_of_mem (show e ∈ history p.step cs s₀ by rw [hrun]; simp)
  cases hcall : e.call with
  | tick =>
    have htick : isTick e = true := congrArg LoopCall.isTick hcall
    have hafter : e.after = p.tick e.before := by
      rw [hentry, hcall]
      exact after_tick hpolls
    rw [hafter, and_iff_right htick, ← hcount, ← yields_iff (by omega)]
    constructor
    · intro hstatus
      by_contra hnot
      rw [tick_polls hnot] at hstatus
      cases hpolls.symm.trans hstatus
    · intro hyields
      exact (tick_yields hyields).2
  | turn t =>
    have htick : isTick e = false := congrArg LoopCall.isTick hcall
    have hafter : e.after = p.turn t e.before := by
      rw [hentry, hcall]
      exact after_turn t hpolls
    rw [hafter, htick]
    exact iff_of_false (turn_status_ne_yielded t hpolls) fun h => by cases h.1

end

/-! ## Sweeps -/

section

variable {σ : Type} [Link σ] {p : PollSession}

/-- This target has been queried. -/
def Swept (t : Target) (past : List (LoopEntry (Watched σ))) : Prop :=
  ∃ e ∈ past, isTurn t.serial e = true ∧ (seen e).kind ≠ .skipped

omit [Link σ] in
/-- A tick stands in front of the turns of all targets, so between two ticks there are all of them. -/
theorem turns_between {cs cs' : List LoopCall} (h : p.calls = cs ++ .tick :: cs')
    (htick : .tick ∈ cs) {t : Target} (ht : t ∈ p.targets) : .turn t ∈ cs := by
  have hturn : LoopCall.turn t ∈ .tick :: p.targets.map .turn :=
    List.mem_cons_of_mem _ (List.mem_map.mpr ⟨t, ht, rfl⟩)
  rw [PollSession.calls] at h
  cases hticks : p.ticks with
  | zero =>
    rw [hticks] at h
    cases cs with
    | nil => cases htick
    | cons c cs => cases h
  | succ n =>
    rw [hticks, List.replicate_succ, List.flatten_cons] at h
    rcases List.append_eq_append_iff.mp h with ⟨more, rfl, -⟩ | ⟨rest, hblock, hrest⟩
    · exact List.mem_append_left more hturn
    · cases rest with
      | nil =>
        rw [List.append_nil] at hblock
        rw [← hblock]
        exact hturn
      | cons c rest =>
        -- the tick would stand among the turns
        obtain ⟨rfl, -⟩ := List.cons.inj hrest
        cases cs with
        | nil => cases htick
        | cons c cs =>
          obtain ⟨-, hmap⟩ := List.cons.inj hblock
          have hmem : LoopCall.tick ∈ p.targets.map .turn := by
            rw [hmap]
            simp
          obtain ⟨t', -, hcall⟩ := List.mem_map.mp hmem
          cases hcall

variable {link : σ} {outbox : List Message} {past future : List (LoopEntry (Watched σ))}
  {e : LoopEntry (Watched σ)}

/-- Who had a turn has been queried: the first turn of all was not skipped. -/
theorem swept_of_turn {t : Target} (hrun : p.run link outbox = past ++ e :: future)
    (hturn : ∃ d ∈ past, isTurn t.serial d = true) : Swept t past := by
  obtain ⟨first, hfind⟩ := Option.isSome_iff_exists.mp (List.find?_isSome.mpr hturn)
  obtain ⟨hfirst, pre, post, rfl, hpre⟩ := List.find?_eq_some_iff_append.mp hfind
  refine ⟨first, by simp, hfirst, ?_⟩
  have hnone : turnsOf t.serial pre = [] := by
    rw [turnsOf, List.filter_eq_nil_iff.mpr fun d hd => by simpa using hpre d hd]
    rfl
  rw [List.append_assoc, List.cons_append] at hrun
  obtain ⟨t', hserial, -, hcounts, hstep⟩ := turn_of_run hrun hfirst
  rw [hserial, hnone] at hcounts
  rw [hserial] at hstep
  intro hskipped
  exact absurd ((hcounts.skipped_iff hstep).mp hskipped).1 (by decide)

/-- **In front of any tick but the first**, every target has been queried. -/
theorem swept_before_tick (hrun : p.run link outbox = past ++ e :: future) (htick : isTick e = true)
    (hpolls : e.before.status = .polling) (hlater : 0 < ticksOf past) {t : Target}
    (ht : t ∈ p.targets) : Swept t past := by
  have hpast := polled_before hrun hpolls
  obtain ⟨cs, cs', hcalls, hpre, hrest⟩ := history_cut hrun
  have hcall := call_of_isTick htick
  cases cs' with
  | nil => cases hrest
  | cons c cs' =>
    obtain ⟨hhead, -⟩ := List.cons.inj hrest
    obtain rfl : c = .tick := by
      rw [hhead] at hcall
      exact hcall
    have hnames := map_call_history p.step cs (LoopState.start link outbox)
    rw [← hpre] at hnames
    have hearlier : .tick ∈ cs := by
      obtain ⟨d, hd, hdtick⟩ := List.countP_pos_iff.mp hlater
      rw [← hnames]
      exact List.mem_map.mpr ⟨d, hd, call_of_isTick hdtick⟩
    have hturn := turns_between hcalls hearlier ht
    rw [← hnames] at hturn
    obtain ⟨d, hd, hdcall⟩ := List.mem_map.mp hturn
    refine swept_of_turn hrun ⟨d, hd, ?_⟩
    rw [isTurn, hdcall]
    exact decide_eq_true ⟨rfl, hpast d hd⟩

end

/-! ## The LOGOFFs of a session -/

section

variable {T : Type} [Transport T] {p : PollSession}

/-- What the loop has done to the session it found logged in. -/
def LoggedOff (found : Session (Recorder T)) (s : LoopState (Watched (LiveLink (Recorder T)))) :
    Prop :=
  (s.status = .polling → Session.NoLogoff found s.task.link.link.session) ∧
    (s.status = .yielded → s.task.link.link.session.logoffCount = found.logoffCount + 1 ∧
      s.task.link.link.session.state = .disconnected)

theorem loggedOff_step {found : Session (Recorder T)} (hin : found.state = .loggedIn)
    (c : LoopCall) {s : LoopState (Watched (LiveLink (Recorder T)))} (h : LoggedOff found s) :
    LoggedOff found (entry p.step c s).after := by
  by_cases hs : s.status = .polling
  · have hkept := h.1 hs
    cases c with
    | tick =>
      rw [after_tick hs]
      by_cases hyields : p.Yields s.poll.pollCount
      · obtain ⟨htask, hstatus⟩ := tick_yields hyields
        constructor
        · intro hpolls
          cases hstatus.symm.trans hpolls
        · intro _
          obtain ⟨hcount, hstate⟩ :=
            Session.gracefulClose_logoffs s.task.link.link.session
          have howed : Session.owed s.task.link.link.session = 1 :=
            if_pos (hkept.state_eq.trans hin)
          rw [htask]
          refine ⟨hcount.trans ?_, hstate⟩
          rw [howed, hkept.count_eq]
      · rw [tick_polls hyields]
        exact h
    | turn t =>
      rw [after_turn t hs]
      constructor
      · intro _
        rw [turn_task]
        have hturn : Session.NoLogoff s.task.link.link.session
            (final ((Task.ownTurn p.say p.sessionStart t (s.poll.own t.serial)).run
              s.task)).link.link.session :=
          (LiveLink.linkKeeps.watched.turnKeeps p.say).ownTurn p.sessionStart t (s.poll.own t.serial) s.task
        exact Session.noLogoff_trans hkept hturn
      · intro hyielded
        exact absurd hyielded (turn_status_ne_yielded t hs)
  · have hstays : (entry p.step c s).after = s := if_neg hs
    rw [hstays]
    exact h

end

/-! ## Whole sessions -/

section

variable (cfg : InverterCfg) (say : Publisher) (targets : List Target) (sessionStart : Int)
  (ticks : Nat)

/-- A session of a config, with any publisher. -/
def InverterCfg.sessionBy : PollSession := ⟨say, cfg.yieldEvery, sessionStart, targets, ticks⟩

variable {T : Type} [Transport T] (link : LiveLink (Recorder T)) (outbox : List Message)

/-- The loop of a session, from the link as the logon left it. -/
def loopAfterLogon : List (LoopEntry (Watched (LiveLink (Recorder T)))) :=
  (cfg.sessionBy say targets sessionStart ticks).run (Task.linkAtFirstTick cfg targets link) outbox

/-- How the loop ends. -/
def loopEnd : LoopState (Watched (LiveLink (Recorder T))) :=
  behind (.start (Task.linkAtFirstTick cfg targets link) outbox)
    (loopAfterLogon cfg say targets sessionStart ticks link outbox)

/-- The session behind the close that follows the loop. -/
def sessionBehind : Session (Recorder T) :=
  (Link.gracefulClose (loopEnd cfg say targets sessionStart ticks link outbox).task.link.link).session

/-- **Yielding is fair**, for a session with `yield_every` N: before it yields, every target has been
    queried; it yields at its first tick whose number is a multiple of N, and nowhere else, and no
    run without a panic and without a fatal error goes past that tick; and if it yields, one LOGOFF is
    sent from the logon on, with the close behind the loop. -/
structure YieldsFairly : Prop where
  sweeps : ∀ past e future,
    loopAfterLogon cfg say targets sessionStart ticks link outbox = past ++ e :: future →
      e.before.status = .polling → e.after.status = .yielded → ∀ t ∈ targets, Swept t past
  atMultiples : ∀ past e future,
    loopAfterLogon cfg say targets sessionStart ticks link outbox = past ++ e :: future →
      e.before.status = .polling → (e.after.status = .yielded ↔ isTick e = true ∧
        cfg.yieldEvery.toNat ∣ ticksOf past + 1 ∧
          ∀ k, 0 < k → cfg.yieldEvery.toNat ∣ k → ticksOf past + 1 ≤ k)
  reached : (∀ identity key value, ∃ m, say identity key value = .ok m) →
    NoFatal (loopAfterLogon cfg say targets sessionStart ticks link outbox) →
      cfg.yieldEvery.toNat ≤ ticks →
        (loopEnd cfg say targets sessionStart ticks link outbox).status = .yielded
  logoffs : (loopEnd cfg say targets sessionStart ticks link outbox).status = .yielded →
    (sessionBehind cfg say targets sessionStart ticks link outbox).logoffCount
      = link.session.logoffCount + 1

variable {cfg say targets sessionStart ticks link outbox}

/-- Number N is the first multiple of N. -/
theorem first_multiple_iff {n k : Nat} (hk : 0 < k) (hle : k ≤ n) :
    (n ∣ k ∧ ∀ j, 0 < j → n ∣ j → k ≤ j) ↔ k = n := by
  constructor
  · rintro ⟨hdvd, -⟩
    exact Nat.le_antisymm hle (Nat.le_of_dvd hk hdvd)
  · rintro rfl
    exact ⟨Nat.dvd_refl k, fun j hj hdvd => Nat.le_of_dvd hj hdvd⟩

theorem yields_at_first_multiple (hyield : 0 < cfg.yieldEvery)
    {past future : List (LoopEntry (Watched (LiveLink (Recorder T))))}
    {e : LoopEntry (Watched (LiveLink (Recorder T)))}
    (hrun : loopAfterLogon cfg say targets sessionStart ticks link outbox = past ++ e :: future)
    (hpolls : e.before.status = .polling) :
    e.after.status = .yielded ↔ isTick e = true ∧ cfg.yieldEvery.toNat ∣ ticksOf past + 1 ∧
      ∀ k, 0 < k → cfg.yieldEvery.toNat ∣ k → ticksOf past + 1 ≤ k := by
  have hfew : ticksOf past + 1 ≤ cfg.yieldEvery.toNat :=
    (ticks_before (p := cfg.sessionBy say targets sessionStart ticks) hyield rfl hrun hpolls).2
  rw [first_multiple_iff (Nat.succ_pos (ticksOf past)) hfew]
  exact yielded_iff (p := cfg.sessionBy say targets sessionStart ticks) hyield rfl hrun hpolls

/-- Tick number N is reached, if nothing else ends the session. -/
theorem yielded_of_ticks (hyield : 0 < cfg.yieldEvery)
    (htotal : ∀ identity key value, ∃ m, say identity key value = .ok m)
    (hfatal : NoFatal (loopAfterLogon cfg say targets sessionStart ticks link outbox))
    (hticks : cfg.yieldEvery.toNat ≤ ticks) :
    (loopEnd cfg say targets sessionStart ticks link outbox).status = .yielded := by
  let p := cfg.sessionBy say targets sessionStart ticks
  rcases end_of_total (p := p) htotal hfatal with hpolls | hyielded
  · have hcounted : TicksCounted p _ (loopEnd cfg say targets sessionStart ticks link outbox) :=
      history_behind ticksCounted_step (ticksCounted_start hyield rfl)
    have hfew : ticksOf (loopAfterLogon cfg say targets sessionStart ticks link outbox)
        < cfg.yieldEvery.toNat := (hcounted hpolls).2
    have hall : ticksOf (loopAfterLogon cfg say targets sessionStart ticks link outbox) = ticks :=
      (ticksOf_history p.calls _).trans countP_calls
    omega
  · exact hyielded

/-- **One LOGOFF**: at the yield, and none by the close behind the loop. -/
theorem logoffs_of_yielded (hin : link.session.state = .loggedIn)
    (hyielded : (loopEnd cfg say targets sessionStart ticks link outbox).status = .yielded) :
    (sessionBehind cfg say targets sessionStart ticks link outbox).logoffCount
      = link.session.logoffCount + 1 := by
  have hstart : Session.NoLogoff link.session (Task.linkAtFirstTick cfg targets link).session :=
    LiveLink.linkKeeps.atFirstTick cfg targets link
  have hfound : LoggedOff link.session
      (.start (Task.linkAtFirstTick cfg targets link) outbox) :=
    ⟨fun _ => hstart, fun h => by cases h⟩
  have hend : LoggedOff link.session (loopEnd cfg say targets sessionStart ticks link outbox) :=
    history_behind (I := fun _ s => LoggedOff link.session s)
      (fun _ c _ h => loggedOff_step hin c h) hfound
  obtain ⟨hcount, hstate⟩ := hend.2 hyielded
  have hclosed := (Session.gracefulClose_logoffs
    (loopEnd cfg say targets sessionStart ticks link outbox).task.link.link.session).1
  have howed : Session.owed
      (loopEnd cfg say targets sessionStart ticks link outbox).task.link.link.session = 0 :=
    if_neg (by rw [hstate]; decide)
  refine hclosed.trans ?_
  rw [hcount, howed]

theorem yieldsFairly_of (hyield : 0 < cfg.yieldEvery) (hin : link.session.state = .loggedIn)
    (h : cfg.yieldEvery ≠ 1 ∨ ticks = 0 ∨ targets = []) :
    YieldsFairly cfg say targets sessionStart ticks link outbox where
  sweeps past e future hrun hpolls hyielded t ht := by
    obtain ⟨htick, hnumber⟩ := (yielded_iff (p := cfg.sessionBy say targets sessionStart ticks)
      hyield rfl hrun hpolls).mp hyielded
    rcases h with hmany | hnone | hnobody
    · refine swept_before_tick hrun htick hpolls ?_ ht
      have hne : cfg.yieldEvery.toNat ≠ 1 := fun hone => hmany (UInt32.toNat_inj.mp hone)
      have hsame : (cfg.sessionBy say targets sessionStart ticks).yieldEvery = cfg.yieldEvery := rfl
      rw [hsame] at hnumber
      omega
    · rw [hnone] at hrun
      have hempty : (loopAfterLogon cfg say targets sessionStart 0 link outbox) = [] := rfl
      rw [hempty] at hrun
      exact absurd hrun.symm (by simp)
    · rw [hnobody] at ht
      cases ht
  atMultiples _ _ _ hrun hpolls := yields_at_first_multiple hyield hrun hpolls
  reached := yielded_of_ticks hyield
  logoffs := logoffs_of_yielded hin

/-- **With N = 1** the first tick yields, and nobody has been asked for anything. -/
theorem not_yieldsFairly (hone : cfg.yieldEvery = 1) (hticks : ticks ≠ 0) (htargets : targets ≠ []) :
    ¬ YieldsFairly cfg say targets sessionStart ticks link outbox := by
  intro hfair
  obtain ⟨n, rfl⟩ := Nat.exists_eq_succ_of_ne_zero hticks
  obtain ⟨t, ts, rfl⟩ := List.exists_cons_of_ne_nil htargets
  let p := cfg.sessionBy say (t :: ts) sessionStart (n + 1)
  let s : LoopState (Watched (LiveLink (Recorder T))) :=
    .start (Task.linkAtFirstTick cfg (t :: ts) link) outbox
  have hyields : p.Yields s.poll.pollCount := (Task.first_tick_yields_iff cfg.yieldEvery).mpr hone
  have hstatus : (entry p.step .tick s).after.status = .yielded := by
    rw [after_tick rfl]
    exact (tick_yields hyields).2
  obtain ⟨d, hd, -⟩ := hfair.sweeps [] (entry p.step .tick s) _ rfl rfl hstatus t List.mem_cons_self
  cases hd

/-- **When yielding is fair**, for a session that is logged in: unless N is 1, and there is a tick, and
    somebody to poll. -/
theorem yields_fairly_iff (hyield : 0 < cfg.yieldEvery) (hin : link.session.state = .loggedIn) :
    YieldsFairly cfg say targets sessionStart ticks link outbox ↔
      cfg.yieldEvery ≠ 1 ∨ ticks = 0 ∨ targets = [] := by
  constructor
  · intro hfair
    by_contra hnot
    rw [not_or, not_or, not_not] at hnot
    exact not_yieldsFairly hnot.1 hnot.2.1 hnot.2.2 hfair
  · exact yieldsFairly_of hyield hin

end

/-- A session that is logged in, with nobody at the other end. -/
def idleLink : LiveLink (Recorder MockTransport) :=
  ⟨Session.recordedSession 0 [], fun reading => reading, fun reading => reading, 0⟩

/-- The config of an installation with one inverter, and this `yield_every`. -/
def yieldingCfg (yieldEvery : UInt32) : InverterCfg :=
  { Task.sampleCfg with yieldEvery := yieldEvery }

/-- A session that yields at every tick never measures. -/
theorem yielding_starves :
    ¬ ∀ (cfg : InverterCfg) (say : Publisher) (targets : List Target) (sessionStart : Int)
      (ticks : Nat) (link : LiveLink (Recorder MockTransport)) (outbox : List Message),
      0 < cfg.yieldEvery → link.session.state = .loggedIn →
        NoFatal (loopAfterLogon cfg say targets sessionStart ticks link outbox) →
          YieldsFairly cfg say targets sessionStart ticks link outbox := by
  intro hall
  have hquiet : NoFatal (loopAfterLogon (yieldingCfg 1) (yieldingCfg 1).mqtt.publishValue
      [Task.sampleTarget] 0 1 idleLink []) := by
    show ∀ e ∈ _, ∀ ev ∈ _, _
    decide +kernel
  exact not_yieldsFairly rfl (by decide) (by decide)
    (hall (yieldingCfg 1) _ [Task.sampleTarget] 0 1 idleLink [] (by decide) rfl hquiet)

/-- A session that yields at every other tick, over four ticks. -/
theorem yields_fairly_every_other :
    YieldsFairly (yieldingCfg 2) (fun _ sensorKey value => .ok ⟨sensorKey, false, .value value⟩)
      [Task.sampleTarget] 0 4 idleLink [] :=
  (yields_fairly_iff (by decide) rfl).mpr (.inl (by decide))

end HassSma
