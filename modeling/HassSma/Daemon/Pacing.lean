/-
  How long the outer loop waits between connects (`run_inverter` in `daemon/src/main.rs`).

  Three variables decide on the wait: the backoff, which doubles; the streak of host-down failures,
  which turns the wait into ten minutes at three; and the deadline that a yield leaves behind, until
  which host-down failures are expected and answered every fifteen seconds.  They are read before the
  sleep and updated around it: the flag "in grace" is taken first, the streak is counted, a deadline
  that has passed is dropped, and the backoff doubles after the sleep.

  1. One round: `connectFailed_wait`, `connectFailed_backoff` say which wait is chosen and when the
     backoff moves.
  2. Every state that is reached (`Steadied`): the backoff is between 2 s and 60 s, and where a deadline
     is set the streak is zero.  A yield sets the deadline with the streak at zero, and the first failure
     that counts behind it also drops it, provided the clock does not run backwards between its two
     readings.
  3. A stretch of failures: the waits outside the grace and below three are the iterates of "double, up
     to a minute" from where the stretch starts (`History.history_iterate`).

  `reconnect_pacing` puts the three together.
-/
import HassSma.Daemon.Availability

namespace HassSma

open Fallible History

/-! ## One round -/

/-- The clock does not run backwards between the two readings of a failure. -/
def Round.ClockForward {σ : Type} : Round σ → Prop
  | .connectFailed _ now later => now ≤ later
  | .handshakeFailed => True
  | .session _ _ _ _ _ => True

namespace RunState

variable (cfg : RunCfg) (error : String) (now later : Nat) (s : RunState)

/-- The wait, by the grace and by the streak with this failure counted. -/
theorem connectFailed_wait :
    (s.connectFailed cfg error now later).1
      = if s.inGrace now && isHostDown error then postYieldRetry
        else if 3 ≤ (s.connectFailed cfg error now later).2.hostDownStreak then sleepBackoff
        else s.backoff := rfl

/-- The backoff doubles outside the grace, while the streak is below three. -/
theorem connectFailed_backoff :
    (s.connectFailed cfg error now later).2.backoff
      = if !s.inGrace now && decide ((s.connectFailed cfg error now later).2.hostDownStreak < 3) then
          min (s.backoff * 2) maxTransientBackoff
        else s.backoff := rfl

/-- A failure only drops a deadline, and only one that has passed. -/
theorem connectFailed_deadline :
    (s.connectFailed cfg error now later).2.postYieldDeadline
      = s.postYieldDeadline.filter fun deadline => later < deadline := rfl

theorem inGrace_of_deadline {s : RunState} {deadline : Nat}
    (h : s.postYieldDeadline = some deadline) (hnow : now < deadline) : s.inGrace now = true := by
  rw [inGrace, h]
  exact decide_eq_true hnow

variable {σ : Type} [Link σ]

/-- What a round that fails to connect comes to. -/
theorem result_connectFailed {s : RunState} (h : s.ended = false) :
    (s.round cfg (.connectFailed error now later : Round σ)).1
      = some (s.connectFailed cfg error now later).1 := by
  simp [round, h]

/-- A session starts with the shortest backoff and ends with it. -/
theorem backoff_session (initSusy : UInt16) (initSerial : UInt32) (link : σ)
    (ticks yieldedAt : Nat) :
    (s.connected.session cfg initSusy initSerial link ticks yieldedAt).backoff = minBackoff := by
  obtain ⟨deadline, ended, ms, hsession, -⟩ :=
    session_spec cfg initSusy initSerial link ticks yieldedAt s.connected
  rw [hsession]
  rfl

/-! ## Every state that is reached -/

/-- The backoff is in range, and the streak is zero while a deadline is set. -/
structure Steadied (s : RunState) : Prop where
  backoff_ge : minBackoff ≤ s.backoff
  backoff_le : s.backoff ≤ maxTransientBackoff
  graced : s.postYieldDeadline ≠ none → s.hostDownStreak = 0

theorem steadied_start : Steadied cfg.start where
  backoff_ge := Nat.le_refl _
  backoff_le := show minBackoff ≤ maxTransientBackoff by decide
  graced h := absurd rfl h

/-- In the grace no failure counts, so the streak stays at zero. -/
theorem Steadied.streak_of_inGrace {s : RunState} (h : Steadied s) (hgrace : s.inGrace now = true) :
    (s.connectFailed cfg error now later).2.hostDownStreak = 0 := by
  have hset : s.postYieldDeadline ≠ none := by
    intro hnone
    rw [inGrace, hnone] at hgrace
    cases hgrace
  have hcounts : s.counts error now = false := by
    rw [counts, hgrace, Bool.not_true, Bool.and_false]
  obtain ⟨-, ⟨-, hstreak, -⟩ | ⟨htrue, -⟩ | ⟨htrue, -⟩⟩ :=
    connectFailed_cases cfg error now later s rfl
  · rw [hstreak]
    exact h.graced hset
  · exact absurd (htrue.symm.trans hcounts) (by decide)
  · exact absurd (htrue.symm.trans hcounts) (by decide)

theorem Steadied.connectFailed {s : RunState} (h : Steadied s) (hclock : now ≤ later) :
    Steadied (s.connectFailed cfg error now later).2 where
  backoff_ge := by
    have hge := h.backoff_ge
    have hcap : minBackoff ≤ maxTransientBackoff := by decide
    rw [connectFailed_backoff]
    split
    · omega
    · exact hge
  backoff_le := by
    rw [connectFailed_backoff]
    split
    · exact Nat.min_le_right _ _
    · exact h.backoff_le
  graced hset := by
    -- a deadline that is still there had not passed when the flag was taken
    obtain ⟨deadline, hkept⟩ := Option.ne_none_iff_exists'.mp hset
    rw [connectFailed_deadline, Option.filter_eq_some_iff] at hkept
    have hnow : now < deadline := Nat.lt_of_le_of_lt hclock (of_decide_eq_true hkept.2)
    exact h.streak_of_inGrace cfg error now later (inGrace_of_deadline now hkept.1 hnow)

/-- **Every round keeps the range and the zero streak.** -/
theorem Steadied.round {s : RunState} (h : Steadied s) {r : Round σ} (hclock : r.ClockForward) :
    Steadied (s.round cfg r).2 := by
  cases hended : s.ended with
  | true =>
    rw [round_ended hended]
    exact h
  | false =>
    cases r with
    | connectFailed error now later =>
      rw [round_connectFailed hended]
      exact h.connectFailed cfg error now later hclock
    | handshakeFailed =>
      rw [round_handshakeFailed hended]
      have hge : minBackoff ≤ min (minBackoff * 2) (60 * second) := by decide
      have hle : min (minBackoff * 2) (60 * second) ≤ maxTransientBackoff := by decide
      exact ⟨hge, hle, fun hset => absurd rfl hset⟩
    | session initSusy initSerial link ticks yieldedAt =>
      have hback := backoff_session cfg s initSusy initSerial link ticks yieldedAt
      obtain ⟨deadline, ended, ms, hsession, -⟩ :=
        session_spec cfg initSusy initSerial link ticks yieldedAt s.connected
      rw [round_session hended]
      refine ⟨by rw [hback], by rw [hback]; decide, ?_⟩
      intro _
      rw [hsession]
      rfl

end RunState

section

variable {σ : Type} [Link σ] {cfg : RunCfg}

/-- In front of every round and behind it. -/
theorem steadied_history {rounds : List (Round σ)} (hclock : ∀ r ∈ rounds, r.ClockForward)
    {s : RunState} (h : s.Steadied) :
    ∀ e ∈ history (RunState.round cfg) rounds s, e.before.Steadied ∧ e.after.Steadied := by
  induction rounds generalizing s with
  | nil =>
    intro e he
    cases he
  | cons r rounds ih =>
    rw [List.forall_mem_cons] at hclock
    have hafter : (entry (RunState.round cfg) r s).after.Steadied := h.round cfg hclock.1
    rw [history, List.forall_mem_cons]
    exact ⟨⟨h, hafter⟩, ih hclock.2 hafter⟩

/-! ## A stretch of failures -/

/-- A failed connect outside the grace, with a streak below three: its wait is the backoff. -/
def onLadder (e : RoundEntry σ) : Bool :=
  match e.call with
  | .connectFailed _ now _ =>
    !e.before.ended && !e.before.inGrace now && decide (e.after.hostDownStreak < 3)
  | .handshakeFailed => false
  | .session _ _ _ _ _ => false

/-- The first wait behind some rounds: four seconds right after a handshake that failed, else two. -/
def firstWait (past : List (RoundEntry σ)) : Nat :=
  match past.getLast? with
  | none => 2 * second
  | some e =>
    match e.call with
    | .connectFailed _ _ _ => 2 * second
    | .handshakeFailed => 4 * second
    | .session _ _ _ _ _ => 2 * second

/-- Doubling with a cap, again and again. -/
theorem iterate_double {b cap : Nat} (hb : b ≤ cap) (k : Nat) :
    (fun b => min (b * 2) cap)^[k] b = min (b * 2 ^ k) cap := by
  induction k generalizing b with
  | zero =>
    rw [Nat.pow_zero, Nat.mul_one, Nat.min_eq_left hb]
    rfl
  | succ k ih =>
    rw [Function.iterate_succ_apply, ih (Nat.min_le_right _ _), Nat.pow_succ', ← Nat.mul_assoc]
    rcases Nat.le_total (b * 2) cap with hle | hge
    · rw [Nat.min_eq_left hle]
    · have hpos : 1 ≤ 2 ^ k := Nat.one_le_two_pow
      have hcap : cap ≤ cap * 2 ^ k := Nat.le_mul_of_pos_right cap hpos
      have hmore : cap * 2 ^ k ≤ b * 2 * 2 ^ k := Nat.mul_le_mul_right _ hge
      rw [Nat.min_eq_right hge, Nat.min_eq_right hcap, Nat.min_eq_right (hcap.trans hmore)]

/-- What a failed connect does to the backoff: it doubles on the ladder and stays off it. -/
theorem backoff_failure {e : RoundEntry σ} (he : e = entry (RunState.round cfg) e.call e.before)
    (hfailed : e.call.connects = false) :
    e.after.backoff
      = if onLadder e then min (e.before.backoff * 2) maxTransientBackoff else e.before.backoff := by
  cases hended : e.before.ended with
  | true =>
    have hoff : onLadder e = false := by
      rw [onLadder, hended]
      cases e.call <;> rfl
    rw [hoff, he, entry, RunState.round_ended hended]
    rfl
  | false =>
    cases hcall : e.call with
    | connectFailed error now later =>
      have hafter : e.after = (e.before.connectFailed cfg error now later).2 := by
        rw [he, entry, hcall, RunState.round_connectFailed hended]
      rw [hafter, RunState.connectFailed_backoff, onLadder, hcall, hafter, hended]
      rfl
    | handshakeFailed =>
      rw [hcall] at hfailed
      cases hfailed
    | session initSusy initSerial link ticks yieldedAt =>
      rw [hcall] at hfailed
      cases hfailed

/-- On the ladder the wait is the backoff. -/
theorem result_onLadder {e : RoundEntry σ} (he : e = entry (RunState.round cfg) e.call e.before)
    (hon : onLadder e = true) : e.result = some e.before.backoff := by
  cases hcall : e.call with
  | connectFailed error now later =>
    rw [onLadder, hcall] at hon
    simp only [Bool.and_eq_true, Bool.not_eq_true', decide_eq_true_eq] at hon
    obtain ⟨⟨hended, hgrace⟩, hlow⟩ := hon
    have hafter : e.after = (e.before.connectFailed cfg error now later).2 := by
      rw [he, entry, hcall, RunState.round_connectFailed hended]
    rw [hafter] at hlow
    have hresult : e.result = some (e.before.connectFailed cfg error now later).1 := by
      rw [he, entry, hcall, RunState.result_connectFailed cfg error now later hended]
    rw [hresult, RunState.connectFailed_wait, hgrace, Bool.false_and, if_neg Bool.false_ne_true,
      if_neg (UInt32.not_le.mpr hlow)]
  | handshakeFailed =>
    rw [onLadder, hcall] at hon
    cases hon
  | session initSusy initSerial link ticks yieldedAt =>
    rw [onLadder, hcall] at hon
    cases hon

/-- **The waits of a stretch of failures** start at the backoff and double, up to a minute. -/
theorem waits_onLadder {rounds : List (Round σ)} {s : RunState}
    (hfailed : ∀ e ∈ history (RunState.round cfg) rounds s, e.call.connects = false)
    (hcap : s.backoff ≤ maxTransientBackoff) :
    ((history (RunState.round cfg) rounds s).filter onLadder).map (fun e => e.result)
      = (List.range ((history (RunState.round cfg) rounds s).filter onLadder).length).map fun k =>
        some (min (s.backoff * 2 ^ k) maxTransientBackoff) := by
  have hbackoffs := history_iterate (P := onLadder) (φ := RunState.backoff)
    (g := fun b => min (b * 2) maxTransientBackoff) (s := s)
    fun e he => backoff_failure (eq_entry_of_mem he) (hfailed e he)
  have hresults : ((history (RunState.round cfg) rounds s).filter onLadder).map (fun e => e.result)
      = (((history (RunState.round cfg) rounds s).filter onLadder).map
          fun e => e.before.backoff).map some := by
    rw [List.map_map]
    apply List.map_congr_left
    intro e he
    rw [List.mem_filter] at he
    exact result_onLadder (eq_entry_of_mem he.1) he.2
  rw [hresults, hbackoffs, List.map_map]
  apply List.map_congr_left
  intro k _
  exact congrArg some (iterate_double hcap k)

/-- A task that has ended climbs no ladder. -/
theorem onLadder_ended {rounds : List (Round σ)} {s : RunState} (h : s.ended = true) :
    (history (RunState.round cfg) rounds s).filter onLadder = [] := by
  induction rounds with
  | nil => rfl
  | cons r rounds ih =>
    have hoff : onLadder (entry (RunState.round cfg) r s) = false := by
      rw [onLadder]
      simp only [entry, h]
      cases r <;> rfl
    have hafter : (entry (RunState.round cfg) r s).after = s := by
      rw [entry, RunState.round_ended h]
    rw [history, List.filter_cons_of_neg (by simp [hoff]), hafter]
    exact ih

/-- Behind a connect that succeeded, or before the first round, the backoff is the first wait. -/
theorem backoff_behind {rounds : List (Round σ)}
    (hfresh : ∀ e, (runInverter cfg rounds).getLast? = some e → e.call.connects = true) :
    (behind cfg.start (runInverter cfg rounds)).ended = true ∨
      (behind cfg.start (runInverter cfg rounds)).backoff = firstWait (runInverter cfg rounds) := by
  rcases List.eq_nil_or_concat (runInverter cfg rounds) with hnil | ⟨past, e, hsplit⟩
  · rw [hnil]
    exact .inr rfl
  · rw [List.concat_eq_append] at hsplit
    have he : e = entry (RunState.round cfg) e.call e.before := by
      have hmem : e ∈ runInverter cfg rounds := by
        rw [hsplit]
        exact List.mem_append_right past List.mem_cons_self
      exact eq_entry_of_mem hmem
    have hconnects : e.call.connects = true := by
      apply hfresh
      rw [hsplit, List.getLast?_concat]
    rw [hsplit, behind_append, firstWait, List.getLast?_concat]
    show e.after.ended = true ∨ _
    cases hended : e.before.ended with
    | true =>
      left
      rw [he, entry, RunState.round_ended hended]
      exact hended
    | false =>
      right
      show e.after.backoff = _
      cases hcall : e.call with
      | connectFailed error now later =>
        rw [hcall] at hconnects
        cases hconnects
      | handshakeFailed =>
        have hdoubled : min (minBackoff * 2) (60 * second) = 4 * second := by decide
        rw [he, entry, hcall, RunState.round_handshakeFailed hended]
        exact hdoubled
      | session initSusy initSerial link ticks yieldedAt =>
        rw [he, entry, hcall, RunState.round_session hended, RunState.backoff_session]
        rfl

/-! ## All of it -/

/-- A round that waits is a connect that failed. -/
theorem connectFailed_of_result {e : RoundEntry σ}
    (he : e = entry (RunState.round cfg) e.call e.before) {wait : Nat}
    (h : e.result = some wait) :
    ∃ error now later, e.call = .connectFailed error now later ∧ e.before.ended = false ∧
      wait = (e.before.connectFailed cfg error now later).1 ∧
      e.after = (e.before.connectFailed cfg error now later).2 := by
  cases hended : e.before.ended with
  | true =>
    rw [he, entry, RunState.round_ended hended] at h
    cases h
  | false =>
    cases hcall : e.call with
    | connectFailed error now later =>
      rw [he, entry, hcall, RunState.result_connectFailed cfg error now later hended] at h
      refine ⟨error, now, later, rfl, rfl, (Option.some.inj h).symm, ?_⟩
      rw [he, entry, hcall, RunState.round_connectFailed hended]
    | handshakeFailed =>
      rw [he, entry, hcall] at h
      simp [RunState.round, hended] at h
    | session initSusy initSerial link ticks yieldedAt =>
      rw [he, entry, hcall] at h
      simp [RunState.round, hended] at h

/-- How the rounds of a task are paced. -/
structure Paced (es : List (RoundEntry σ)) : Prop where
  waits : ∀ e ∈ es, ∀ wait, e.result = some wait →
    wait = 15 * second ∨ wait = 600 * second ∨ (2 * second ≤ wait ∧ wait ≤ 60 * second)
  /-- Ten minutes are for a streak of three. -/
  asleep : ∀ e ∈ es, e.result = some (600 * second) → 3 ≤ e.after.hostDownStreak
  /-- While a deadline is set the streak is zero, between any two rounds. -/
  streak : ∀ e ∈ es, (e.before.postYieldDeadline ≠ none → e.before.hostDownStreak = 0) ∧
    (e.after.postYieldDeadline ≠ none → e.after.hostDownStreak = 0)
  /-- In the grace there is no long wait and nobody is marked offline. -/
  grace : ∀ e ∈ es, ∀ error now later deadline, e.call = .connectFailed error now later →
    e.before.ended = false → e.before.postYieldDeadline = some deadline → now < deadline →
      e.result ≠ some (600 * second) ∧ e.after.outbox = e.before.outbox ∧
      (isHostDown error = true → e.result = some (15 * second))
  /-- Outside of it, below three and with no connect between, the waits double. -/
  ladder : ∀ past tries future, es = past ++ tries ++ future →
    (∀ e, past.getLast? = some e → e.call.connects = true) →
    (∀ e ∈ tries, e.call.connects = false) →
      (tries.filter onLadder).map (fun e => e.result)
        = (List.range (tries.filter onLadder).length).map fun k =>
          some (min (firstWait past * 2 ^ k) (60 * second))

/-- A failure in the grace. -/
theorem paced_grace {e : RoundEntry σ} (he : e = entry (RunState.round cfg) e.call e.before)
    (hsteady : e.before.Steadied) {error : String} {now later deadline : Nat}
    (hcall : e.call = .connectFailed error now later) (hended : e.before.ended = false)
    (hset : e.before.postYieldDeadline = some deadline) (hnow : now < deadline) :
    e.result ≠ some (600 * second) ∧ e.after.outbox = e.before.outbox ∧
      (isHostDown error = true → e.result = some (15 * second)) := by
  have hgrace := RunState.inGrace_of_deadline now hset hnow
  have hzero := hsteady.streak_of_inGrace cfg error now later hgrace
  have hresult : e.result = some (e.before.connectFailed cfg error now later).1 := by
    rw [he, entry, hcall, RunState.result_connectFailed cfg error now later hended]
  have hafter : e.after = (e.before.connectFailed cfg error now later).2 := by
    rw [he, entry, hcall, RunState.round_connectFailed hended]
  have hcounts : e.before.counts error now = false := by
    rw [RunState.counts, hgrace, Bool.not_true, Bool.and_false]
  have hwait := RunState.connectFailed_wait cfg error now later e.before
  rw [hgrace, hzero, Bool.true_and, if_neg (show ¬ (3 : UInt32) ≤ 0 by decide)] at hwait
  rw [hresult, hwait, hafter]
  refine ⟨?_, ?_, ?_⟩
  · intro h
    have hle := hsteady.backoff_le
    have hlong : maxTransientBackoff < 600 * second := by decide
    have hshort : postYieldRetry < 600 * second := by decide
    have hsome := Option.some.inj h
    split at hsome
    · omega
    · omega
  · obtain ⟨-, ⟨-, -, -, hbox⟩ | ⟨htrue, -⟩ | ⟨htrue, -⟩⟩ :=
      RunState.connectFailed_cases cfg error now later e.before rfl
    · exact hbox
    · exact absurd (htrue.symm.trans hcounts) (by decide)
    · exact absurd (htrue.symm.trans hcounts) (by decide)
  · intro hdown
    rw [if_pos hdown]
    rfl

/-- The ladder of any stretch of failures behind a connect. -/
theorem paced_ladder {rounds : List (Round σ)} (hclock : ∀ r ∈ rounds, r.ClockForward)
    {past tries future : List (RoundEntry σ)}
    (hsplit : runInverter cfg rounds = past ++ tries ++ future)
    (hfresh : ∀ e, past.getLast? = some e → e.call.connects = true)
    (hfailed : ∀ e ∈ tries, e.call.connects = false) :
    (tries.filter onLadder).map (fun e => e.result)
      = (List.range (tries.filter onLadder).length).map fun k =>
        some (min (firstWait past * 2 ^ k) (60 * second)) := by
  rw [List.append_assoc] at hsplit
  obtain ⟨before, others, rfl, hpast, hrest⟩ := history_cut hsplit
  obtain ⟨failures, later, -, htries, -⟩ := history_cut hrest.symm
  rw [← runInverter] at hpast
  have hsteady : (behind cfg.start past).Steadied := by
    rcases List.eq_nil_or_concat past with rfl | ⟨front, e, rfl⟩
    · exact RunState.steadied_start cfg
    · rw [List.concat_eq_append] at hpast ⊢
      rw [behind_append]
      have he : e ∈ runInverter cfg before := by
        rw [← hpast]
        exact List.mem_append_right front List.mem_cons_self
      have hfront : ∀ r ∈ before, r.ClockForward :=
        fun r hr => hclock r (List.mem_append_left others hr)
      exact (steadied_history hfront (RunState.steadied_start cfg) e he).2
  rw [htries] at hfailed ⊢
  rw [hpast] at hfresh
  rcases backoff_behind hfresh with hended | hbackoff
  · rw [← hpast] at hended
    rw [onLadder_ended hended]
    rfl
  · rw [← hpast] at hbackoff
    rw [waits_onLadder hfailed hsteady.backoff_le, hbackoff]
    rfl

/-- **Reconnects are paced.**  Over all rounds of a task, whatever the connects, handshakes and sessions
    do: a wait is 15 s, ten minutes or between two seconds and a minute; ten minutes need a streak of
    three; until a post-yield deadline has passed the streak is zero, no failure leads to the long
    wait or to an offline message, and each host-down failure waits 15 s; and outside the grace, below
    a streak of three, failures without a connect between wait 2 s (4 s right behind a failed
    handshake), twice as long each time, up to a minute. -/
theorem reconnect_pacing (cfg : RunCfg) {rounds : List (Round σ)}
    (hclock : ∀ r ∈ rounds, r.ClockForward) : Paced (runInverter cfg rounds) := by
  have hsteady : ∀ e ∈ runInverter cfg rounds, e.before.Steadied ∧ e.after.Steadied :=
    steadied_history hclock (RunState.steadied_start cfg)
  refine ⟨?_, ?_, ?_, ?_, ?_⟩
  · intro e he wait hwait
    obtain ⟨error, now, later, -, -, hresult, -⟩ :=
      connectFailed_of_result (eq_entry_of_mem he) hwait
    have hge := (hsteady e he).1.backoff_ge
    have hle := (hsteady e he).1.backoff_le
    rw [RunState.connectFailed_wait] at hresult
    rw [hresult]
    split
    · exact .inl rfl
    · split
      · exact .inr (.inl rfl)
      · exact .inr (.inr ⟨hge, hle⟩)
  · intro e he hwait
    obtain ⟨error, now, later, -, -, hresult, hafter⟩ :=
      connectFailed_of_result (eq_entry_of_mem he) hwait
    have hle := (hsteady e he).1.backoff_le
    have hlong : maxTransientBackoff < 600 * second := by decide
    have hshort : postYieldRetry < 600 * second := by decide
    rw [hafter]
    rw [RunState.connectFailed_wait] at hresult
    split at hresult
    · omega
    · split at hresult
      · rename_i hthree
        exact hthree
      · omega
  · intro e he
    exact ⟨(hsteady e he).1.graced, (hsteady e he).2.graced⟩
  · intro e he error now later deadline hcall hended hset hnow
    exact paced_grace (eq_entry_of_mem he) (hsteady e he).1 hcall hended hset hnow
  · intro past tries future hsplit hfresh hfailed
    exact paced_ladder hclock hsplit hfresh hfailed

end

/-- Three host-down failures from the start: two steps of the ladder, then the long wait. -/
theorem reconnect_pacing_asleep :
    let rounds := List.replicate 3 (.connectFailed "Host is down (os error 112)" 0 0)
    Paced (runInverter (σ := Task.SilentLink) repeaterCfg rounds) ∧
      (runInverter (σ := Task.SilentLink) repeaterCfg rounds).map (fun e => e.result)
        = [some (2 * second), some (4 * second), some (600 * second)] := by
  refine ⟨reconnect_pacing repeaterCfg ?_, by decide +kernel⟩
  intro r hr
  rw [List.eq_of_mem_replicate hr]
  exact Nat.le_refl 0

end HassSma
