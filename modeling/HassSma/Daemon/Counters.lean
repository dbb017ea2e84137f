/-
  What the counters in the metrics registry say about the run of an inverter task.

  The counters of the outer loop are moved by the rounds alone, those of the poll loop by the sessions.  A
  tick counts one poll in front of its turns, and a turn counts at most one error, since it ends
  with its first one.  So with every tick there is room for as many errors as there are targets, and each
  turn takes one of them (`Ticking`, with the room that is left); behind the ticks nothing is left of
  it, and the errors are at most as many as there were polls and targets (`counters_agree`).

  The time of the last successful poll is set behind a tick in which a target's sweep was completed.
  There is none: such a turn does not end, since the failure counter that it publishes has no sensor.
-/
import HassSma.Daemon.Outputs

namespace HassSma

open Fallible History

/-! ## What is not counted -/

/-- Gauges and rows may be new, but nothing has been counted. -/
def Uncounted (s s' : Sinks) : Prop :=
  s'.metrics = { s.metrics with deviceGauge := s'.metrics.deviceGauge } ∧
    s'.publishedThisTick = s.publishedThisTick

theorem uncounted_refl (s : Sinks) : Uncounted s s := ⟨rfl, rfl⟩

theorem uncounted_trans {s s' s'' : Sinks} (h : Uncounted s s') (h' : Uncounted s' s'') :
    Uncounted s s'' := by
  refine ⟨?_, h'.2.trans h.2⟩
  have hnew := h'.1
  rw [h.1] at hnew
  exact hnew

theorem uncounted_set (smp : Sample) (label : DeviceLabels) (s : Sinks) : Uncounted s (smp.set label s) := by
  rw [Sample.set]
  cases smp.gauge with
  | none => exact uncounted_refl s
  | some p => exact ⟨rfl, rfl⟩

theorem uncounted_archive (smp : Sample) (identity : InverterIdentity) (s : Sinks) :
    Uncounted s (smp.archive identity s) := by
  rw [Sample.archive]
  cases smp.row with
  | none => exact uncounted_refl s
  | some p =>
    simp only [Sinks.record]
    split
    · exact ⟨rfl, rfl⟩
    · exact uncounted_refl s

section

variable {σ : Type} {cfg : RunCfg}

theorem uncounted_publishValue (identity : InverterIdentity) (key : String) (r : Reading)
    (w : Task (Metered σ)) :
    Uncounted w.link.sinks
      (final ((Task.publishValue cfg.mqtt identity key r).run w)).link.sinks := by
  unfold Task.publishValue
  cases cfg.mqtt.publishValue identity key r with
  | ok m => exact uncounted_refl _
  | error panic => exact uncounted_refl _

/-- In a task: nothing has been counted. -/
abbrev Uncounting (w w' : Task (Metered σ)) : Prop := Uncounted w.link.sinks w'.link.sinks

variable (cfg) in
theorem uncounted_keeps : AskKeeps cfg (Uncounting (σ := σ)) where
  refl w := uncounted_refl _
  trans h h' := uncounted_trans h h'
  ask _ w := uncounted_refl _
  plain identity _ w := uncounted_publishValue identity _ _ w
  sample {smp} identity _ := by
    refine Keeps.bind (R := Uncounting) uncounted_trans (fun w => ?_) fun _ =>
      Keeps.bind (R := Uncounting) uncounted_trans (fun w => ?_) fun _ w => ?_
    · exact uncounted_set smp _ _
    · exact uncounted_publishValue identity _ _ w
    · exact uncounted_archive smp identity _

/-! ## A session -/

/-- What a session leaves alone: the counters of the outer loop, and those of other slots. -/
structure OuterSame (cfg : RunCfg) (s s' : Sinks) : Prop where
  reconnects : s'.metrics.btReconnectsTotal = s.metrics.btReconnectsTotal
  handshakes : s'.metrics.handshakeErrorsTotal = s.metrics.handshakeErrorsTotal
  awake : s'.metrics.inverterAwake = s.metrics.inverterAwake
  polls : ∀ label, label ≠ ⟨cfg.slot⟩ → s'.metrics.pollsTotal label = s.metrics.pollsTotal label
  errors : ∀ label, label ≠ ⟨cfg.slot⟩ →
    s'.metrics.pollErrorsTotal label = s.metrics.pollErrorsTotal label
  last : s'.metrics.lastSuccessfulPollUnix = s.metrics.lastSuccessfulPollUnix

/-- In a session that began with `start`, over `n` targets: there is room for `room` errors more. -/
structure Ticking (cfg : RunCfg) (start : Sinks) (n room : Nat) (s : Sinks) : Prop where
  outer : OuterSame cfg start s
  errors : s.metrics.pollErrorsTotal ⟨cfg.slot⟩ + room ≤ s.metrics.pollsTotal ⟨cfg.slot⟩ * n

variable {start : Sinks} {n room : Nat}

theorem OuterSame.of_uncounted {s s' : Sinks} (h : OuterSame cfg start s) (hsame : Uncounted s s') :
    OuterSame cfg start s' := by
  obtain ⟨hmetrics, -⟩ := hsame
  refine ⟨?_, ?_, ?_, ?_, ?_, ?_⟩
  · exact (congrArg MetricsRegistry.btReconnectsTotal hmetrics).trans h.reconnects
  · exact (congrArg MetricsRegistry.handshakeErrorsTotal hmetrics).trans h.handshakes
  · exact (congrArg MetricsRegistry.inverterAwake hmetrics).trans h.awake
  · intro label hlabel
    exact (congrArg (MetricsRegistry.pollsTotal · label) hmetrics).trans (h.polls label hlabel)
  · intro label hlabel
    exact (congrArg (MetricsRegistry.pollErrorsTotal · label) hmetrics).trans (h.errors label hlabel)
  · exact (congrArg MetricsRegistry.lastSuccessfulPollUnix hmetrics).trans h.last

theorem Ticking.of_uncounted {s s' : Sinks} (h : Ticking cfg start n room s) (hsame : Uncounted s s') :
    Ticking cfg start n room s' := by
  refine ⟨h.outer.of_uncounted hsame, ?_⟩
  rw [hsame.1]
  exact h.errors

/-- Less room than there is. -/
theorem Ticking.less {room' : Nat} {s : Sinks} (h : Ticking cfg start n room s) (hle : room' ≤ room) :
    Ticking cfg start n room' s :=
  ⟨h.outer, Nat.le_trans (Nat.add_le_add_left hle _) h.errors⟩

theorem Ticking.pollError {s : Sinks} (h : Ticking cfg start n (room + 1) s) :
    Ticking cfg start n room (s.pollError ⟨cfg.slot⟩) := by
  refine ⟨⟨h.outer.reconnects, h.outer.handshakes, h.outer.awake, h.outer.polls, ?_, h.outer.last⟩, ?_⟩
  · intro label hlabel
    exact (Function.update_of_ne hlabel _ _).trans (h.outer.errors label hlabel)
  · show Function.update s.metrics.pollErrorsTotal ⟨cfg.slot⟩ _ ⟨cfg.slot⟩ + room
      ≤ s.metrics.pollsTotal ⟨cfg.slot⟩ * n
    rw [Function.update_self]
    have herrors := h.errors
    omega

theorem Ticking.published {s : Sinks} (h : Ticking cfg start n room s) :
    Ticking cfg start n room s.published := by
  obtain ⟨⟨hreconnects, hhandshakes, hawake, hpolls, herrors, hlast⟩, hroom⟩ := h
  exact ⟨⟨hreconnects, hhandshakes, hawake, hpolls, herrors, hlast⟩, hroom⟩

theorem Ticking.tick {s : Sinks} (h : Ticking cfg start n 0 s) :
    Ticking cfg start n n (s.tick ⟨cfg.slot⟩) := by
  refine ⟨⟨h.outer.reconnects, h.outer.handshakes, h.outer.awake, ?_, h.outer.errors, h.outer.last⟩, ?_⟩
  · intro label hlabel
    exact (Function.update_of_ne hlabel _ _).trans (h.outer.polls label hlabel)
  · show _ + n ≤ Function.update s.metrics.pollsTotal ⟨cfg.slot⟩ _ ⟨cfg.slot⟩ * n
    rw [Function.update_self, Nat.succ_mul]
    exact Nat.add_le_add_right h.errors n

/-- In front of and behind a step, and at a panic. -/
abbrev KeepsTicking (cfg : RunCfg) (start : Sinks) (n room : Nat) {α : Type}
    (x : TaskM (Metered σ) α) (left : Nat) : Prop :=
  Triple (fun w => Ticking cfg start n room w.link.sinks ∧ w.link.sinks.publishedThisTick = 0) x
    (fun _ w => Ticking cfg start n left w.link.sinks ∧ w.link.sinks.publishedThisTick = 0)
    (fun w => Ticking cfg start n 0 w.link.sinks)

/-- A step that counts nothing. -/
theorem ticking_of_uncounting {α : Type} {x : TaskM (Metered σ) α} (h : Keeps Uncounting x) :
    KeepsTicking cfg start n room x room := by
  refine h.triple (fun hsame hw => ?_) fun w hw => hw.1.less (Nat.zero_le _)
  exact ⟨hw.1.of_uncounted hsame, hsame.2.trans hw.2⟩

theorem ticking_pure {α : Type} (a : α) {left : Nat} (hle : left ≤ room) :
    KeepsTicking cfg start n room (pure a : TaskM (Metered σ) α) left :=
  triple_pure fun _ hw => ⟨hw.1.less hle, hw.2⟩

variable [Link σ]

/-- **A sweep** counts at most one error, its last step. -/
theorem ticking_sweep (t : Target) (kinds : List QueryKind) :
    KeepsTicking cfg start n (room + 1) (Metered.sweep cfg t kinds : TaskM (Metered σ) SweepEnd)
      room := by
  induction kinds with
  | nil => exact ticking_pure _ (Nat.le_succ room)
  | cons kind kinds ih =>
    refine Triple.bind (ticking_of_uncounting ((uncounted_keeps cfg).queryForDevice t kind)) fun result => ?_
    cases result with
    | ok body =>
      exact Triple.bind (ticking_of_uncounting
        ((uncounted_keeps cfg).publishSamples t.identity (samplesOf_faithful kind body))) fun _ => ih
    | error e =>
      have hend : ∀ r : SweepEnd, KeepsTicking cfg start n (room + 1)
          (do
            Metered.meter (·.pollError ⟨cfg.slot⟩)
            Task.publishValue cfg.mqtt t.identity "poll_status" (.text "error")
            pure r : TaskM (Metered σ) SweepEnd) room := by
        intro r
        refine Triple.bind (Q := fun _ w => Ticking cfg start n room w.link.sinks ∧
          w.link.sinks.publishedThisTick = 0) (fun w hw => ⟨hw.1.pollError, hw.2⟩) fun _ => ?_
        exact Triple.bind (ticking_of_uncounting fun w => uncounted_publishValue _ _ _ w) fun _ =>
          ticking_pure r (Nat.le_refl room)
      simp only
      split
      · exact hend .fatal
      · exact hend .failed

/-- **A turn** that ends has no completed sweep: behind one the task panics. -/
theorem ticking_turn (sessionStart : Int) (t : Target) (st : PollState) :
    KeepsTicking cfg start n (room + 1)
      (Metered.turn cfg sessionStart t st : TaskM (Metered σ) (Option PollState)) room := by
  refine Triple.bind (ticking_of_uncounting ((uncounted_keeps cfg).cooldownGate t st)) fun gate => ?_
  obtain ⟨cooling, st⟩ := gate
  cases cooling with
  | true => exact ticking_pure _ (Nat.le_succ room)
  | false =>
    refine Triple.bind (ticking_sweep t perTickQueries) fun ending => ?_
    cases ending with
    | fatal => exact ticking_pure _ (Nat.le_refl room)
    | failed =>
      exact Triple.bind (ticking_of_uncounting ((uncounted_keeps cfg).targetFailed t st)) fun _ =>
        ticking_pure _ (Nat.le_refl room)
    | completed =>
      intro w hw
      obtain ⟨w', hpanic⟩ := Task.panics_targetCompleted cfg.toInverterCfg sessionStart t st
        { w with link := { w.link with sinks := w.link.sinks.published } }
      have hsame := (uncounted_keeps cfg).targetCompleted sessionStart t st
        { w with link := { w.link with sinks := w.link.sinks.published } }
      rw [hpanic] at hsame
      have hmeter : (Metered.meter Sinks.published).run w
          = .ok () { w with link := { w.link with sinks := w.link.sinks.published } } := rfl
      simp only [bind_of_ok hmeter, bind_of_error hpanic]
      have hpublished : Ticking cfg start n 0 w.link.sinks.published :=
        (hw.1.less (Nat.zero_le room)).published
      exact hpublished.of_uncounted hsame

theorem ticking_turns (sessionStart : Int) (targets : List Target) (st : PollState) :
    KeepsTicking cfg start n targets.length
      (Metered.turns cfg sessionStart targets st : TaskM (Metered σ) (Option PollState)) 0 := by
  induction targets generalizing st with
  | nil => exact ticking_pure _ (Nat.le_refl 0)
  | cons t ts ih =>
    refine Triple.bind (ticking_turn sessionStart t st) fun next => ?_
    cases next with
    | none => exact ticking_pure _ (Nat.zero_le _)
    | some st => exact ih st

/-- Between ticks there is no room left. -/
abbrev KeepsCounts (cfg : RunCfg) (start : Sinks) (n : Nat) {α : Type} (x : TaskM (Metered σ) α) : Prop :=
  Triple (fun w => Ticking cfg start n 0 w.link.sinks) x
    (fun _ w => Ticking cfg start n 0 w.link.sinks) (fun w => Ticking cfg start n 0 w.link.sinks)

omit [Link σ] in
theorem counts_of_uncounting {α : Type} {x : TaskM (Metered σ) α} (h : Keeps Uncounting x) :
    KeepsCounts cfg start n x :=
  h.triple (fun hsame hw => hw.of_uncounted hsame) fun _ hw => hw

omit [Link σ] in
theorem counts_pure {α : Type} (a : α) : KeepsCounts cfg start n (pure a : TaskM (Metered σ) α) :=
  triple_pure fun _ hw => hw

/-- The loop, by induction on the ticks; each of them makes room for its turns. -/
theorem counts_pollLoop {targets : List Target} (hn : targets.length = n) (sessionStart : Int)
    (ticks : Nat) (st : PollState) :
    KeepsCounts cfg start n
      (Metered.pollLoop cfg targets sessionStart ticks st : TaskM (Metered σ) LoopEnd) := by
  induction ticks generalizing st with
  | zero => exact counts_pure _
  | succ ticks ih =>
    rw [Metered.pollLoop]
    refine Triple.bind (Q := fun _ w => Ticking cfg start n n w.link.sinks ∧
      w.link.sinks.publishedThisTick = 0) (fun w hw => ⟨hw.tick, rfl⟩) fun _ => ?_
    simp only
    split
    · refine Triple.bind (ticking_of_uncounting (uncounted_keeps cfg).gracefulClose) fun _ => ?_
      refine Triple.bind (ticking_of_uncounting (uncounted_keeps cfg).instantNow) fun _ => ?_
      exact triple_pure fun _ hw => hw.1.less (Nat.zero_le n)
    · refine Triple.bind (hn ▸ ticking_turns sessionStart targets _) fun next => ?_
      cases next with
      | none => exact triple_pure fun _ hw => hw.1
      | some st =>
        -- nothing was completed in this tick, so the time is not set
        refine Triple.bind (Q := fun _ w => Ticking cfg start n 0 w.link.sinks) (fun w hw => ?_)
          fun _ => ih st
        have hidle : w.link.sinks.ticked ⟨cfg.slot⟩ = w.link.sinks := by
          rw [Sinks.ticked, hw.2]
          rfl
        show Ticking cfg start n 0 (w.link.sinks.ticked ⟨cfg.slot⟩)
        rw [hidle]
        exact hw.1

/-- **A session** leaves the counters of the outer loop alone, and no more errors than polls of its
    targets. -/
theorem counts_pollPhase (targets : List Target) (ticks : Nat) :
    KeepsCounts cfg start targets.length
      (Metered.pollPhase cfg targets ticks : TaskM (Metered σ) LoopEnd) := by
  have hlength : ∀ (w : Task (Metered σ)) ts w',
      (Task.identityOneShots cfg.toInverterCfg targets).run w = .ok ts w' →
      ts.length = targets.length := by
    intro w ts w' hrun
    obtain ⟨ts', w₁, hrun', -, haddr⟩ := Task.reaches_identityOneShots cfg.toInverterCfg targets w
    rw [hrun] at hrun'
    obtain ⟨rfl, -⟩ := EStateM.Result.ok.inj hrun'
    exact haddr.length_eq.symm
  refine Triple.bind (counts_of_uncounting ((uncounted_keeps cfg).eventLogOneShot targets)) fun _ => ?_
  refine Triple.bind ((counts_of_uncounting
    ((uncounted_keeps cfg).identityOneShots targets)).value hlength) fun ts => ?_
  refine triple_fact fun hts => ?_
  refine Triple.bind (counts_of_uncounting (uncounted_keeps cfg).utcNow) fun sessionStart => ?_
  refine Triple.bind (counts_pollLoop hts sessionStart ticks .new) fun loopEnd => ?_
  refine Triple.bind ?_ fun _ => counts_pure loopEnd
  unfold Task.endSession
  split
  · exact counts_pure ()
  · exact counts_of_uncounting (uncounted_keeps cfg).gracefulClose

end

/-! ## Runs -/

section

variable {σ : Type} {cfg : RunCfg}

/-- The rounds that were run: the task had not ended. -/
def tried (past : List (RoundEntry σ)) : List (RoundEntry σ) := past.filter fun e => !e.before.ended

/-- A round whose handshake fails. -/
def Round.refused : Round σ → Bool
  | .connectFailed _ _ _ => false
  | .handshakeFailed => true
  | .session _ _ _ _ _ => false

/-- Asleep behind a host-down failure that counts, awake behind a connect that succeeds. -/
def awakeAfter (past : List (RoundEntry σ)) : Option Int :=
  if 0 < countedFailures past then some 0
  else if past.any (·.call.connects) then some 1
  else none

/-- The counters of a task behind its rounds. -/
structure Counted (cfg : RunCfg) (past : List (RoundEntry σ)) (s : Sinks) : Prop where
  reconnects : s.metrics.btReconnectsTotal ⟨cfg.slot⟩ = (tried past).length
  handshakes : s.metrics.handshakeErrorsTotal ⟨cfg.slot⟩ = (tried past).countP (·.call.refused)
  awake : s.metrics.inverterAwake ⟨cfg.slot⟩ = awakeAfter (tried past)
  errors : s.metrics.pollErrorsTotal ⟨cfg.slot⟩
    ≤ s.metrics.pollsTotal ⟨cfg.slot⟩ * cfg.deviceSlots.length
  last : ∀ label, s.metrics.lastSuccessfulPollUnix label = none
  otherSlots : ∀ label : InverterLabels, label ≠ ⟨cfg.slot⟩ →
    s.metrics.btReconnectsTotal label = 0 ∧ s.metrics.handshakeErrorsTotal label = 0 ∧
      s.metrics.inverterAwake label = none ∧ s.metrics.pollsTotal label = 0 ∧
      s.metrics.pollErrorsTotal label = 0

theorem counted_new (cfg : RunCfg) (archiving : Bool) (wallClock : Nat → Int) :
    Counted cfg ([] : List (RoundEntry σ)) (.new archiving wallClock) where
  reconnects := rfl
  handshakes := rfl
  awake := rfl
  errors := Nat.zero_le _
  last _ := rfl
  otherSlots _ _ := ⟨rfl, rfl, rfl, rfl, rfl⟩

theorem awakeAfter_concat (past : List (RoundEntry σ)) (e : RoundEntry σ) :
    awakeAfter (past ++ [e])
      = if e.call.connects then some 1
        else if counted e then some 0
        else awakeAfter past := by
  rw [awakeAfter, countedFailures_concat, List.any_append]
  cases hconnects : e.call.connects with
  | true => simp [hconnects]
  | false =>
    cases hcounted : counted e with
    | true => simp
    | false => simp [awakeAfter, hconnects]

theorem tried_concat (past : List (RoundEntry σ)) (e : RoundEntry σ) :
    tried (past ++ [e]) = if e.before.ended then tried past else tried past ++ [e] := by
  rw [tried, List.filter_append, ← tried]
  cases hended : e.before.ended with
  | true => simp [hended]
  | false => simp [hended]

theorem length_targets (cfg : RunCfg) (s : RunState) (initSusy : UInt16) (initSerial : UInt32) :
    (s.targets cfg initSusy initSerial).length = cfg.deviceSlots.length := by
  unfold RunState.targets InverterCfg.targets RunCfg.deviceSlots
  split
  · rfl
  · rw [List.length_map, List.length_map]

/-- The counters of the outer loop behind a round: one attempt more, what it says about the inverter, and
    perhaps a refusal.  The poll loop's are as they were. -/
theorem Counted.concat {past : List (RoundEntry σ)} {s s' : Sinks} (h : Counted cfg past s)
    {e : RoundEntry σ} (hended : e.before.ended = false)
    (hreconnects : s'.metrics.btReconnectsTotal = (s.reconnect ⟨cfg.slot⟩).metrics.btReconnectsTotal)
    (hhandshakes : s'.metrics.handshakeErrorsTotal = if e.call.refused
      then (s.handshakeError ⟨cfg.slot⟩).metrics.handshakeErrorsTotal
      else s.metrics.handshakeErrorsTotal)
    (hawake : s'.metrics.inverterAwake =
      if e.call.connects then (s.setAwake ⟨cfg.slot⟩ 1).metrics.inverterAwake
      else if counted e then (s.setAwake ⟨cfg.slot⟩ 0).metrics.inverterAwake
      else s.metrics.inverterAwake)
    (hpolls : s'.metrics.pollsTotal = s.metrics.pollsTotal)
    (herrors : s'.metrics.pollErrorsTotal = s.metrics.pollErrorsTotal)
    (hlast : s'.metrics.lastSuccessfulPollUnix = s.metrics.lastSuccessfulPollUnix) :
    Counted cfg (past ++ [e]) s' := by
  have htried : tried (past ++ [e]) = tried past ++ [e] := by
    rw [tried_concat, hended]
    rfl
  refine ⟨?_, ?_, ?_, ?_, ?_, ?_⟩
  · rw [hreconnects, htried, List.length_append, ← h.reconnects]
    exact Function.update_self _ _ _
  · rw [hhandshakes, htried, List.countP_append, ← h.handshakes, List.countP_singleton]
    split
    · exact Function.update_self _ _ _
    · rfl
  · rw [hawake, htried, awakeAfter_concat, ← h.awake]
    split
    · exact Function.update_self _ _ _
    · split
      · exact Function.update_self _ _ _
      · rfl
  · rw [hpolls, herrors]
    exact h.errors
  · rw [hlast]
    exact h.last
  · intro label hlabel
    obtain ⟨hr, hh, ha, hp, he⟩ := h.otherSlots label hlabel
    refine ⟨?_, ?_, ?_, ?_, ?_⟩
    · rw [hreconnects]
      exact (Function.update_of_ne hlabel _ _).trans hr
    · rw [hhandshakes]
      split
      · exact (Function.update_of_ne hlabel _ _).trans hh
      · exact hh
    · rw [hawake]
      split
      · exact (Function.update_of_ne hlabel _ _).trans ha
      · split
        · exact (Function.update_of_ne hlabel _ _).trans ha
        · exact ha
    · rw [hpolls]
      exact hp
    · rw [herrors]
      exact he

/-- And behind the session of a round. -/
theorem Counted.ticked {past : List (RoundEntry σ)} {s s' : Sinks} (h : Counted cfg past s)
    (hsession : Ticking cfg s cfg.deviceSlots.length 0 s') : Counted cfg past s' := by
  obtain ⟨houter, herrors⟩ := hsession
  refine ⟨?_, ?_, ?_, herrors, ?_, ?_⟩
  · rw [houter.reconnects]
    exact h.reconnects
  · rw [houter.handshakes]
    exact h.handshakes
  · rw [houter.awake]
    exact h.awake
  · rw [houter.last]
    exact h.last
  · intro label hlabel
    rw [houter.reconnects, houter.handshakes, houter.awake, houter.polls label hlabel,
      houter.errors label hlabel]
    exact h.otherSlots label hlabel

variable [Link σ]

/-- **Every round** is counted. -/
theorem counted_round {past : List (RoundEntry σ)} {s : MeteredState} (h : Counted cfg past s.sinks)
    (r : Round σ) :
    Counted cfg (past ++ [(entry (MeteredState.round cfg) r s).view MeteredState.run])
      (s.round cfg r).2.sinks := by
  have hbefore : ((entry (MeteredState.round cfg) r s).view MeteredState.run).before = s.run := rfl
  cases hended : s.run.ended with
  | true =>
    have htried : tried (past ++ [(entry (MeteredState.round cfg) r s).view MeteredState.run])
        = tried past := by
      rw [tried_concat, hbefore, hended]
      rfl
    obtain ⟨hr, hh, ha, he, hl, ho⟩ := h
    rw [← htried] at hr hh ha
    rw [MeteredState.round, if_pos hended]
    exact ⟨hr, hh, ha, he, hl, ho⟩
  | false =>
    have hnot : ¬ s.run.ended = true := by simp [hended]
    rw [MeteredState.round, if_neg hnot]
    cases r with
    | connectFailed error now later =>
      have hcounted : counted ((entry (MeteredState.round cfg)
          (.connectFailed error now later : Round σ) s).view MeteredState.run)
          = (isHostDown error && !s.run.inGrace now) := rfl
      show Counted cfg _ (if _ then _ else _)
      refine h.concat hended ?_ ?_ ?_ ?_ ?_ ?_
      · split <;> rfl
      · show _ = s.sinks.metrics.handshakeErrorsTotal
        split <;> rfl
      · rw [hcounted]
        show _ = if _ then (s.sinks.setAwake ⟨cfg.slot⟩ 0).metrics.inverterAwake
          else s.sinks.metrics.inverterAwake
        split <;> rfl
      · split <;> rfl
      · split <;> rfl
      · split <;> rfl
    | handshakeFailed => exact h.concat hended rfl rfl rfl rfl rfl rfl
    | session initSusy initSerial link ticks yieldedAt =>
      let start := (s.sinks.reconnect ⟨cfg.slot⟩).setAwake ⟨cfg.slot⟩ 1
      have hstart : Counted cfg (past ++ [(entry (MeteredState.round cfg)
          (.session initSusy initSerial link ticks yieldedAt) s).view MeteredState.run]) start :=
        h.concat hended rfl rfl rfl rfl rfl rfl
      have hcounts : KeepsCounts cfg start (s.run.connected.targets cfg initSusy initSerial).length
          (Metered.pollPhase cfg (s.run.connected.targets cfg initSusy initSerial) ticks
            : TaskM (Metered σ) LoopEnd) := counts_pollPhase _ ticks
      have hrun := hcounts.final
        (s := ⟨⟨link, start⟩, (s.run.connected.loggedIn cfg initSusy initSerial link).outbox⟩)
        ⟨⟨rfl, rfl, rfl, fun _ _ => rfl, fun _ _ => rfl, rfl⟩, by
          rw [length_targets]
          exact hstart.errors⟩
      rw [length_targets] at hrun
      exact hstart.ticked hrun

/-- **The counters agree with the run.**  After any rounds: as many reconnects as attempts to connect, and
    as many handshake errors as handshakes that failed; the inverter is awake or asleep as the last
    attempt has it that decided the question, and neither in front of the first one; the poll errors
    are at most the polls times the devices; no other slot has been counted; and the time of
    the last successful poll is never set. -/
theorem counters_agree (cfg : RunCfg) (archiving : Bool) (wallClock : Nat → Int)
    (rounds : List (Round σ)) :
    Counted cfg ((runMetered cfg archiving wallClock rounds).map (Entry.view MeteredState.run))
      (behind ⟨cfg.start, .new archiving wallClock⟩
        (runMetered cfg archiving wallClock rounds)).sinks := by
  refine history_behind (I := fun past (s : MeteredState) =>
    Counted cfg (past.map (Entry.view MeteredState.run)) s.sinks) ?_ (counted_new cfg archiving wallClock)
  intro past r s h
  rw [List.map_append]
  exact counted_round h r

end

end HassSma
