/-
  Whether the targets of one session are isolated from each other.

  A session polls its targets in turn, tick after tick, and keeps a failure counter and the end of a
  cooldown for each of them.  What a target's turns do is to depend on nothing but its own replies and
  the clock readings of its turns, and nobody else is to prevent them.

  1. **The loop is its turns** — `pollLoop_history`.
  2. **The same answers, the same turns** — `turnsOf_eq`, by induction over the calls: what is carried
     along is that two runs have the same entries for the target.
  3. **No turn is prevented** — with a publisher that knows every key it is only a yield that ends
     the turns (`polls_of_total`), and so the targets are isolated (`isolated_of_total`).  The
     daemon's publisher does not know the failure counter: the first turn panics, and there is no
     second one (`no_turn_prevented_iff`, `isolated_iff`).
-/
import HassSma.Daemon.OwnTurn
import HassSma.Lib.History

namespace HassSma

open Fallible History TwoRuns

/-! ## The loop, turn by turn -/

/-- A poll loop still polls, or has stopped. -/
inductive LoopStatus where
  | polling
  | yielded
  | aborted
  | panicked
  deriving DecidableEq

structure LoopState (σ : Type) where
  task : Task σ
  poll : PollState
  status : LoopStatus

inductive LoopCall where
  | tick
  | turn (t : Target)

/-- A poll loop to be run. -/
structure PollSession where
  say : Publisher
  yieldEvery : UInt32
  sessionStart : Int
  targets : List Target
  ticks : Nat

namespace PollSession

variable {σ : Type} [Link σ] (p : PollSession)

/-- The start of a tick: it is counted, and it may yield the session. -/
def tick (s : LoopState σ) : LoopState σ :=
  let poll := { s.poll with pollCount := s.poll.pollCount + 1 }
  if 0 < p.yieldEvery ∧ poll.pollCount % p.yieldEvery = 0 then
    { task := { s.task with link := (Link.instantNow (Link.gracefulClose s.task.link)).2 }
      poll := poll
      status := .yielded }
  else { s with poll := poll }

def turn (t : Target) (s : LoopState σ) : LoopState σ :=
  match (Task.ownTurn p.say p.sessionStart t (s.poll.own t.serial)).run s.task with
  | .ok (some own) w => { s with task := w, poll := s.poll.put t.serial own }
  | .ok none w => { s with task := w, status := .aborted }
  | .error _ w => { s with task := w, status := .panicked }

/-- Behind a stop nothing happens. -/
def step (c : LoopCall) (s : LoopState σ) : Unit × LoopState σ :=
  ((), if s.status = .polling then
      match c with
      | .tick => p.tick s
      | .turn t => p.turn t s
    else s)

/-- In each tick, every target is to have its turn. -/
def calls : List LoopCall :=
  (List.replicate p.ticks (.tick :: p.targets.map .turn)).flatten

end PollSession

/-- An entry of a loop. -/
abbrev LoopEntry (σ : Type) := Entry LoopCall (LoopState σ) Unit

section

variable {σ : Type} [Link σ] {p : PollSession}

theorem behind_stopped (cs : List LoopCall) {s : LoopState σ} (h : s.status ≠ .polling) :
    behind s (history p.step cs s) = s := by
  induction cs with
  | nil => rfl
  | cons c cs ih =>
    have hstep : (entry p.step c s).after = s := if_neg h
    rw [history, behind, hstep]
    exact ih

/-- The loop of a config. -/
def InverterCfg.pollSession (cfg : InverterCfg) (targets : List Target) (sessionStart : Int)
    (ticks : Nat) : PollSession :=
  ⟨cfg.mqtt.publishValue, cfg.yieldEvery, sessionStart, targets, ticks⟩

/-- How a loop stands that ended so. -/
def LoopStatus.of : Except Panic LoopEnd → LoopStatus
  | .ok .running => .polling
  | .ok .yielded => .yielded
  | .ok .aborted => .aborted
  | .error _ => .panicked

theorem after_tick {s : LoopState σ} (h : s.status = .polling) :
    (entry p.step .tick s).after = p.tick s := if_pos h

theorem after_turn (t : Target) {s : LoopState σ} (h : s.status = .polling) :
    (entry p.step (.turn t) s).after = p.turn t s := if_pos h

/-- Whether the tick behind `n` others yields the session. -/
def PollSession.Yields (p : PollSession) (n : UInt32) : Prop :=
  0 < p.yieldEvery ∧ (n + 1) % p.yieldEvery = 0

theorem tick_yields {s : LoopState σ} (h : p.Yields s.poll.pollCount) :
    (p.tick s).task = { s.task with link := (Link.instantNow (Link.gracefulClose s.task.link)).2 } ∧
      (p.tick s).status = .yielded := by
  have htick : p.tick s = _ := if_pos h
  rw [htick]
  exact ⟨rfl, rfl⟩

theorem tick_polls {s : LoopState σ} (h : ¬ p.Yields s.poll.pollCount) :
    p.tick s = { s with poll := { s.poll with pollCount := s.poll.pollCount + 1 } } := if_neg h

/-- The turns of one tick. -/
theorem turns_history (cfg : InverterCfg) (targets : List Target) (sessionStart : Int) (ticks : Nat)
    (ts : List Target) (st : PollState) (w : Task σ) :
    let s := behind ⟨w, st, .polling⟩ (history (cfg.pollSession targets sessionStart ticks).step
      (ts.map .turn) ⟨w, st, .polling⟩)
    match (Task.turns cfg sessionStart ts st).run w with
    | .ok (some st') w' => s = ⟨w', st', .polling⟩
    | .ok none w' => s.task = w' ∧ s.status = .aborted
    | .error _ w' => s.task = w' ∧ s.status = .panicked := by
  induction ts generalizing st w with
  | nil => rfl
  | cons t ts ih =>
    have hturn : (entry (cfg.pollSession targets sessionStart ticks).step (.turn t)
        ⟨w, st, .polling⟩).after
        = (cfg.pollSession targets sessionStart ticks).turn t ⟨w, st, .polling⟩ :=
      after_turn t rfl
    rw [List.map_cons, history, behind, hturn, PollSession.turn, Task.turns, EStateM.run_bind,
      Task.turn_eq, map_eq_pure_bind, EStateM.run_bind]
    simp only [InverterCfg.pollSession]
    cases (Task.ownTurn cfg.mqtt.publishValue sessionStart t (st.own t.serial)).run w with
    | error e w' =>
      rw [behind_stopped _ (by simp)]
      exact ⟨rfl, rfl⟩
    | ok own w' =>
      cases own with
      | none =>
        rw [behind_stopped _ (by simp)]
        exact ⟨rfl, rfl⟩
      | some own => exact ih (st.put t.serial own) w'

/-- Any number of ticks. -/
theorem ticks_history (cfg : InverterCfg) (targets : List Target) (sessionStart : Int)
    (ticks n : Nat) (st : PollState) (w : Task σ) :
    let result := (Task.pollLoop cfg targets sessionStart n st).run w
    let s := behind ⟨w, st, .polling⟩ (history (cfg.pollSession targets sessionStart ticks).step
      (List.replicate n (.tick :: targets.map .turn)).flatten ⟨w, st, .polling⟩)
    s.task = final result ∧ s.status = .of (value result) := by
  induction n generalizing st w with
  | zero => exact ⟨rfl, rfl⟩
  | succ n ih =>
    have htick : (entry (cfg.pollSession targets sessionStart ticks).step .tick
        ⟨w, st, .polling⟩).after
        = (cfg.pollSession targets sessionStart ticks).tick ⟨w, st, .polling⟩ := after_tick rfl
    rw [List.replicate_succ, List.flatten_cons, List.cons_append, history, behind, htick,
      Task.pollLoop]
    by_cases hyield : (cfg.pollSession targets sessionStart ticks).Yields st.pollCount
    · obtain ⟨htask, hstatus⟩ := tick_yields (s := ⟨w, st, .polling⟩) hyield
      rw [behind_stopped _ (by rw [hstatus]; decide), if_pos (by exact hyield)]
      exact ⟨htask, hstatus⟩
    · rw [tick_polls (by exact hyield), if_neg (by exact hyield), history_append, behind_append,
        EStateM.run_bind]
      have hturns := turns_history cfg targets sessionStart ticks targets
        { st with pollCount := st.pollCount + 1 } w
      cases hrun : (Task.turns cfg sessionStart targets
          { st with pollCount := st.pollCount + 1 }).run w with
      | error e w' =>
        rw [hrun] at hturns
        rw [behind_stopped _ (by rw [hturns.2]; decide)]
        exact hturns
      | ok next w' =>
        rw [hrun] at hturns
        cases next with
        | none =>
          rw [behind_stopped _ (by rw [hturns.2]; decide)]
          exact hturns
        | some st' =>
          rw [hturns]
          exact ih st' w'

/-- **The poll loop is its turns**, one after the other. -/
theorem pollLoop_history (cfg : InverterCfg) (targets : List Target) (sessionStart : Int)
    (ticks : Nat) (st : PollState) (w : Task σ) :
    let result := (Task.pollLoop cfg targets sessionStart ticks st).run w
    let s := behind ⟨w, st, .polling⟩ (history (cfg.pollSession targets sessionStart ticks).step
      (cfg.pollSession targets sessionStart ticks).calls ⟨w, st, .polling⟩)
    s.task = final result ∧ s.status = .of (value result) :=
  ticks_history cfg targets sessionStart ticks ticks st w

end

/-! ## Isolation -/

/-- What is seen of a turn: what passed the link, and what was published. -/
structure TurnSeen where
  events : List LinkEvent
  published : List Message

/-- The replies of a turn, and its clock readings. -/
def TurnSeen.answers (seen : TurnSeen) : List LinkAnswer := seen.events.map LinkEvent.answer

section

variable {σ : Type}

def seen (e : LoopEntry (Watched σ)) : TurnSeen where
  events := e.after.task.link.log.drop e.before.task.link.log.length
  published := e.after.task.outbox.drop e.before.task.outbox.length

/-- A turn of this target, in a loop that still polls. -/
def isTurn (serial : UInt32) (e : LoopEntry σ) : Bool :=
  match e.call with
  | .tick => false
  | .turn t => decide (t.serial = serial ∧ e.before.status = .polling)

/-- The turns a target has had, in order. -/
def turnsOf (serial : UInt32) (es : List (LoopEntry (Watched σ))) : List TurnSeen :=
  (es.filter (isTurn serial)).map seen

/-- No query has failed with an error that is fatal to the session. -/
def NoFatal (es : List (LoopEntry (Watched σ))) : Prop :=
  ∀ e ∈ es, ∀ ev ∈ e.after.task.link.log, ev.fatal = false

/-- A loop in front of its first tick. -/
def LoopState.start (link : σ) (outbox : List Message) : LoopState (Watched σ) :=
  ⟨⟨⟨link, []⟩, outbox⟩, .new, .polling⟩

/-- A loop from its first tick on. -/
def PollSession.run [Link σ] (p : PollSession) (link : σ) (outbox : List Message) :
    List (LoopEntry (Watched σ)) :=
  history p.step p.calls (.start link outbox)

/-- The turns get no answers but those of the scripts, one for each turn. -/
def Follows (turns : List TurnSeen) (scripts : List (List LinkAnswer)) : Prop :=
  List.Forall₂ (fun turn script => turn.answers <+: script) turns scripts

/-- **A target is isolated**: it has its turn in every tick in front of a yield, and in any other run
    in which it gets the same answers, whatever the others get, its turns are the same. -/
def Isolated [Link σ] (p : PollSession) (link : σ) (outbox : List Message) (t : Target) : Prop :=
  (∀ e ∈ p.run link outbox, e.call = .turn t →
      e.before.status = .polling ∨ e.before.status = .yielded) ∧
    ∀ (τ : Type) [Link τ] (link' : τ) (outbox' : List Message) (scripts : List (List LinkAnswer)),
      NoFatal (p.run link' outbox') →
      Follows (turnsOf t.serial (p.run link outbox)) scripts →
      Follows (turnsOf t.serial (p.run link' outbox')) scripts →
      turnsOf t.serial (p.run link outbox) = turnsOf t.serial (p.run link' outbox')

end

/-! ### The same answers, the same turns -/

section

variable {σ τ : Type} [Link σ] [Link τ] {p : PollSession}

theorem turn_task (t : Target) (s : LoopState σ) :
    (p.turn t s).task
      = final ((Task.ownTurn p.say p.sessionStart t (s.poll.own t.serial)).run s.task) := by
  rw [PollSession.turn]
  cases (Task.ownTurn p.say p.sessionStart t (s.poll.own t.serial)).run s.task with
  | ok own w => cases own <;> rfl
  | error e w => rfl

/-- The target's own entries behind a turn. -/
theorem turn_own (t : Target) (s : LoopState σ) :
    (p.turn t s).poll.own t.serial
      = match value ((Task.ownTurn p.say p.sessionStart t (s.poll.own t.serial)).run s.task) with
        | .ok (some own) => own
        | _ => s.poll.own t.serial := by
  rw [PollSession.turn]
  cases (Task.ownTurn p.say p.sessionStart t (s.poll.own t.serial)).run s.task with
  | ok own w =>
    cases own with
    | none => rfl
    | some own => exact PollState.own_put s.poll t.serial own
  | error e w => rfl

theorem turn_own_of_ne {t : Target} {serial : UInt32} (h : serial ≠ t.serial) (s : LoopState σ) :
    (p.turn t s).poll.own serial = s.poll.own serial := by
  rw [PollSession.turn]
  cases (Task.ownTurn p.say p.sessionStart t (s.poll.own t.serial)).run s.task with
  | ok own w =>
    cases own with
    | none => rfl
    | some own => exact PollState.own_put_of_ne s.poll own h
  | error e w => rfl

theorem tick_own (serial : UInt32) (s : LoopState σ) :
    (p.tick s).poll.own serial = s.poll.own serial := by
  rw [PollSession.tick]
  split <;> rfl

theorem turnsOf_stopped (serial : UInt32) (cs : List LoopCall) {s : LoopState (Watched σ)}
    (h : s.status ≠ .polling) : turnsOf serial (history p.step cs s) = [] := by
  induction cs with
  | nil => rfl
  | cons c cs ih =>
    have hstep : (entry p.step c s).after = s := if_neg h
    have hnot : ¬ isTurn serial (entry p.step c s) = true := by
      cases c with
      | tick => exact Bool.false_ne_true
      | turn t => exact fun hturn => h (of_decide_eq_true hturn).2
    rw [history, hstep, turnsOf, List.filter_cons_of_neg hnot]
    exact ih

theorem turnsOf_skip {serial : UInt32} {c : LoopCall} (cs : List LoopCall)
    {s : LoopState (Watched σ)} (h : isTurn serial (entry p.step c s) = false) :
    turnsOf serial (history p.step (c :: cs) s)
      = turnsOf serial (history p.step cs (entry p.step c s).after) := by
  rw [history, turnsOf, List.filter_cons_of_neg (by rw [h]; exact Bool.false_ne_true)]
  rfl

/-- What is seen of a turn is what it adds. -/
theorem seen_of_adds {t : Target} {s : LoopState (Watched σ)} (hpolls : s.status = .polling)
    {es : List LinkEvent} {os : List Message}
    (h : (taskWindow σ).Adds s.task (final ((Task.ownTurn p.say p.sessionStart t
      (s.poll.own t.serial)).run s.task)) es os) :
    seen (entry p.step (.turn t) s) = ⟨es, os⟩ := by
  have htask : (entry p.step (.turn t) s).after.task = _ :=
    (congrArg LoopState.task (after_turn t hpolls)).trans (turn_task t s)
  have hevents : (entry p.step (.turn t) s).after.task.link.log = s.task.link.log ++ es := by
    rw [htask]
    exact h.events
  have houtput : (entry p.step (.turn t) s).after.task.outbox = s.task.outbox ++ os := by
    rw [htask]
    exact h.output
  rw [seen, hevents, houtput]
  exact congrArg₂ TurnSeen.mk List.drop_left List.drop_left

/-- **One turn of two runs**: with answers out of one script it is the same turn, and it leaves the
    same entries. -/
theorem seen_eq {t : Target} {s : LoopState (Watched σ)} {s' : LoopState (Watched τ)}
    (hpolls : s.status = .polling) (hpolls' : s'.status = .polling)
    (hown : s.poll.own t.serial = s'.poll.own t.serial) {script : List LinkAnswer}
    (h : (seen (entry p.step (.turn t) s)).answers <+: script)
    (h' : (seen (entry p.step (.turn t) s')).answers <+: script) :
    seen (entry p.step (.turn t) s) = seen (entry p.step (.turn t) s') ∧
      (p.turn t s).poll.own t.serial = (p.turn t s').poll.own t.serial := by
  have halike := Task.alike_ownTurn (σ := σ) (τ := τ) p.say p.sessionStart t (s.poll.own t.serial)
  obtain ⟨es, os, hadds⟩ := halike.grows s.task
  obtain ⟨es', os', hadds'⟩ := halike.grows' s'.task
  have hseen := seen_of_adds hpolls hadds
  have hseen' := seen_of_adds hpolls' (by rw [← hown]; exact hadds')
  rw [hseen] at h ⊢
  rw [hseen'] at h' ⊢
  obtain ⟨rest, hrest⟩ := h
  obtain ⟨rest', hrest'⟩ := h'
  obtain ⟨rfl, rfl, hvalue⟩ := halike.same hadds hadds' (hrest.trans hrest'.symm)
  refine ⟨rfl, ?_⟩
  rw [turn_own, turn_own, ← hown, hvalue]

/-- A turn, and the turns behind it. -/
theorem turnsOf_cons {t : Target} {cs : List LoopCall} {s : LoopState (Watched σ)}
    (hpolls : s.status = .polling) {scripts : List (List LinkAnswer)}
    (h : Follows (turnsOf t.serial (history p.step (.turn t :: cs) s)) scripts) :
    turnsOf t.serial (history p.step (.turn t :: cs) s)
        = seen (entry p.step (.turn t) s) :: turnsOf t.serial (history p.step cs (p.turn t s)) ∧
      ∃ script scripts', scripts = script :: scripts' ∧
        (seen (entry p.step (.turn t) s)).answers <+: script ∧
        Follows (turnsOf t.serial (history p.step cs (p.turn t s))) scripts' := by
  have hturn : isTurn t.serial (entry p.step (.turn t) s) = true := decide_eq_true ⟨rfl, hpolls⟩
  have hcons : turnsOf t.serial (history p.step (.turn t :: cs) s)
      = seen (entry p.step (.turn t) s) :: turnsOf t.serial (history p.step cs (p.turn t s)) := by
    rw [history, turnsOf, List.filter_cons_of_pos hturn, List.map_cons, after_turn t hpolls]
    rfl
  refine ⟨hcons, ?_⟩
  rw [hcons] at h
  obtain ⟨script, scripts', hscript, hrest, rfl⟩ := List.forall₂_cons_left_iff.mp h
  exact ⟨script, scripts', rfl, hscript, hrest⟩

/-- **The same answers make the same turns**, from the same entries, whatever the others get. -/
theorem turnsOf_eq {serial : UInt32} (cs : List LoopCall) {s : LoopState (Watched σ)}
    {s' : LoopState (Watched τ)} (hown : s.poll.own serial = s'.poll.own serial)
    {scripts : List (List LinkAnswer)}
    (h : Follows (turnsOf serial (history p.step cs s)) scripts)
    (h' : Follows (turnsOf serial (history p.step cs s')) scripts) :
    turnsOf serial (history p.step cs s) = turnsOf serial (history p.step cs s') := by
  induction cs generalizing s s' scripts with
  | nil => rfl
  | cons c cs ih =>
    by_cases hpolls : s.status = .polling
    · by_cases hpolls' : s'.status = .polling
      · cases c with
        | tick =>
          rw [turnsOf_skip cs rfl, after_tick hpolls] at h ⊢
          rw [turnsOf_skip cs rfl, after_tick hpolls'] at h' ⊢
          exact ih (by rw [tick_own, tick_own, hown]) h h'
        | turn t =>
          by_cases hserial : t.serial = serial
          · subst hserial
            obtain ⟨hseen, script, scripts', rfl, hscript, hrest⟩ := turnsOf_cons hpolls h
            obtain ⟨hseen', script', scripts'', hscripts, hscript', hrest'⟩ :=
              turnsOf_cons hpolls' h'
            obtain ⟨rfl, rfl⟩ := List.cons.inj hscripts
            obtain ⟨hsame, hbehind⟩ := seen_eq hpolls hpolls' hown hscript hscript'
            rw [hseen, hseen', hsame, ih hbehind hrest hrest']
          · have hnot : ∀ {υ : Type} [Link υ] (s : LoopState (Watched υ)),
                isTurn serial (entry p.step (.turn t) s) = false :=
              fun s => decide_eq_false fun hturn => hserial hturn.1
            rw [turnsOf_skip cs (hnot s), after_turn t hpolls] at h ⊢
            rw [turnsOf_skip cs (hnot s'), after_turn t hpolls'] at h' ⊢
            refine ih ?_ h h'
            rw [turn_own_of_ne (Ne.symm hserial), turn_own_of_ne (Ne.symm hserial), hown]
      · -- one run has stopped: there is no script left, and no turn in the other one
        rw [turnsOf_stopped serial _ hpolls'] at h' ⊢
        obtain rfl := List.forall₂_nil_left_iff.mp h'
        exact List.forall₂_nil_right_iff.mp h
    · rw [turnsOf_stopped serial _ hpolls] at h ⊢
      obtain rfl := List.forall₂_nil_left_iff.mp h
      exact (List.forall₂_nil_right_iff.mp h').symm

end

/-! ### No turn is prevented -/

section

variable {σ : Type} [Link σ]

/-- The loop polls, or it has yielded, as long as no error was fatal. -/
def Unstopped (past : List (LoopEntry (Watched σ))) (s : LoopState (Watched σ)) : Prop :=
  NoFatal past → s.status = .polling ∨ s.status = .yielded

/-- **One call, with a publisher that knows every key.** -/
theorem unstopped_step {p : PollSession}
    (htotal : ∀ identity key value, ∃ m, p.say identity key value = .ok m)
    (past : List (LoopEntry (Watched σ))) (c : LoopCall) (s : LoopState (Watched σ))
    (hI : Unstopped past s) : Unstopped (past ++ [entry p.step c s]) (entry p.step c s).after := by
  intro hpast
  rcases hI fun d hd => hpast d (List.mem_append_left _ hd) with hpolls | hyielded
  · cases c with
    | tick =>
      rw [after_tick hpolls]
      by_cases hyield : p.Yields s.poll.pollCount
      · exact .inr (tick_yields hyield).2
      · rw [tick_polls hyield]
        exact .inl hpolls
    | turn t =>
      have hlog := hpast _ (List.mem_append_right _ (List.mem_singleton.mpr rfl))
      rw [after_turn t hpolls] at hlog ⊢
      left
      obtain ⟨r, w', hrun⟩ :=
        Task.ends_ownTurn htotal p.sessionStart t (s.poll.own t.serial) s.task
      rw [turn_task, hrun] at hlog
      rw [PollSession.turn, hrun]
      cases r with
      | some own => exact hpolls
      | none =>
        obtain ⟨ev, hev, hbad⟩ := Task.fatal_of_ownTurn hrun
        exact absurd ((hlog ev hev).symm.trans hbad) Bool.false_ne_true
  · have hstays : (entry p.step c s).after = s := if_neg (by rw [hyielded]; decide)
    rw [hstays]
    exact .inr hyielded

/-- **With a publisher that knows every key** nothing but a yield ends the turns. -/
theorem polls_of_total {p : PollSession}
    (htotal : ∀ identity key value, ∃ m, p.say identity key value = .ok m) {link : σ}
    {outbox : List Message} (hfatal : NoFatal (p.run link outbox)) :
    ∀ e ∈ p.run link outbox, e.before.status = .polling ∨ e.before.status = .yielded := by
  intro e he
  obtain ⟨pre, post, hsplit⟩ := List.append_of_mem he
  have hpre : NoFatal pre := by
    intro d hd
    apply hfatal
    rw [hsplit]
    exact List.mem_append_left _ hd
  exact history_before (unstopped_step htotal) (fun _ => .inl rfl) hsplit hpre

/-- So does the end of the loop. -/
theorem end_of_total {p : PollSession}
    (htotal : ∀ identity key value, ∃ m, p.say identity key value = .ok m) {link : σ}
    {outbox : List Message} (hfatal : NoFatal (p.run link outbox)) :
    let s := behind (.start link outbox) (p.run link outbox)
    s.status = .polling ∨ s.status = .yielded :=
  history_behind (unstopped_step htotal) (fun _ => .inl rfl) hfatal

/-- **Isolation, with a publisher that knows every key**, over any targets and ticks. -/
theorem isolated_of_total {p : PollSession}
    (htotal : ∀ identity key value, ∃ m, p.say identity key value = .ok m) {link : σ}
    {outbox : List Message} (hfatal : NoFatal (p.run link outbox)) (t : Target) :
    Isolated p link outbox t :=
  ⟨fun e he _ => polls_of_total htotal hfatal e he,
    fun _ _ _ _ _ _ h h' => turnsOf_eq p.calls rfl h h'⟩

/-! ### The publisher of the daemon -/

/-- **A turn outside cooldown** panics, without a fatal error: the failure counter has no sensor. -/
theorem turn_panics (cfg : InverterCfg) (targets : List Target) (sessionStart : Int) (ticks : Nat)
    {t : Target} {s : LoopState (Watched σ)} (hskip : s.poll.skipUntil t.serial = none)
    (hfatal : ∀ ev ∈ ((cfg.pollSession targets sessionStart ticks).turn t s).task.link.log,
      ev.fatal = false) :
    ((cfg.pollSession targets sessionStart ticks).turn t s).status = .panicked := by
  obtain ⟨hcut, hpanics⟩ := Task.turn_spec cfg sessionStart t hskip s.task
  simp only [Task.Panics, Task.turn_eq, map_eq_pure_bind, EStateM.run_bind] at hcut hpanics
  rw [turn_task] at hfatal
  rw [PollSession.turn]
  simp only [InverterCfg.pollSession] at hfatal ⊢
  cases hrun : (Task.ownTurn cfg.mqtt.publishValue sessionStart t (s.poll.own t.serial)).run
      s.task with
  | error e w => rfl
  | ok own w =>
    rw [hrun] at hcut hpanics hfatal
    cases own with
    | none =>
      obtain ⟨ev, hev, hbad⟩ := Task.fatal_of_ownTurn hrun
      exact absurd ((hfatal ev hev).symm.trans hbad) Bool.false_ne_true
    | some own =>
      cases hfirst : Task.fatalFirst t.susyId t.serial perTickQueries s.task.link with
      | true => nomatch hcut hfirst
      | false => nomatch hpanics hfirst

/-- The loop of a stopped state asks for the turns in vain. -/
theorem mem_stopped {p : PollSession} {cs : List LoopCall} {c : LoopCall} (hc : c ∈ cs)
    {s : LoopState σ} (h : s.status ≠ .polling) :
    ∃ e ∈ history p.step cs s, e.call = c ∧ e.before = s := by
  induction cs with
  | nil => nomatch hc
  | cons c' cs ih =>
    rcases List.mem_cons.mp hc with rfl | hc
    · exact ⟨_, List.mem_cons_self, rfl, rfl⟩
    · obtain ⟨e, he, hcall, hbefore⟩ := ih hc
      have hstep : (entry p.step c' s).after = s := if_neg h
      refine ⟨e, ?_, hcall, hbefore⟩
      rw [history, hstep]
      exact List.mem_cons_of_mem _ he

theorem before_of_stopped {p : PollSession} {cs : List LoopCall} {s : LoopState σ}
    (h : s.status ≠ .polling) : ∀ e ∈ history p.step cs s, e.before = s := by
  induction cs with
  | nil => nofun
  | cons c cs ih =>
    have hstep : (entry p.step c s).after = s := if_neg h
    rw [history, hstep, List.forall_mem_cons]
    exact ⟨rfl, ih⟩

section

variable (cfg : InverterCfg) (targets : List Target) (sessionStart : Int)

/-- The calls of a loop that has a tick and a target. -/
theorem calls_cons (t : Target) (ts : List Target) (ticks : Nat) :
    (cfg.pollSession (t :: ts) sessionStart (ticks + 1)).calls
      = .tick :: .turn t :: (ts.map .turn
        ++ (List.replicate ticks (.tick :: (t :: ts).map .turn)).flatten) := by
  rw [PollSession.calls]
  simp only [InverterCfg.pollSession, List.replicate_succ, List.flatten_cons, List.map_cons,
    List.cons_append]

omit [Link σ] in
/-- The first tick yields exactly if every tick does. -/
theorem yields_first_iff (ticks : Nat) (link : σ) (outbox : List Message) :
    (cfg.pollSession targets sessionStart ticks).Yields
        (LoopState.start link outbox).poll.pollCount
      ↔ cfg.yieldEvery = 1 := Task.first_tick_yields_iff cfg.yieldEvery

/-- A loop that polls somebody: a tick, a turn that panics, and all that is left to do. -/
theorem run_cons {link : σ} {outbox : List Message} {t : Target} {ts : List Target} {ticks : Nat}
    (hyield : cfg.yieldEvery ≠ 1)
    (hfatal : NoFatal ((cfg.pollSession (t :: ts) sessionStart (ticks + 1)).run link outbox)) :
    ∃ e₀ e₁ s, e₀.call = .tick ∧ e₁.before.status = .polling ∧ s.status = .panicked ∧
      (cfg.pollSession (t :: ts) sessionStart (ticks + 1)).run link outbox
        = e₀ :: e₁ :: history (cfg.pollSession (t :: ts) sessionStart (ticks + 1)).step
          (ts.map .turn ++ (List.replicate ticks (.tick :: (t :: ts).map .turn)).flatten) s := by
  generalize hp : cfg.pollSession (t :: ts) sessionStart (ticks + 1) = p at hfatal ⊢
  let s₀ : LoopState (Watched σ) := .start link outbox
  let s₁ : LoopState (Watched σ) :=
    { s₀ with poll := { s₀.poll with pollCount := s₀.poll.pollCount + 1 } }
  have hnot : ¬ p.Yields s₀.poll.pollCount := by
    rw [← hp]
    exact mt (yields_first_iff cfg (t :: ts) sessionStart (ticks + 1) link outbox).mp hyield
  have htick : (entry p.step .tick s₀).after = s₁ := (after_tick rfl).trans (tick_polls hnot)
  have hrun : p.run link outbox = entry p.step .tick s₀ :: entry p.step (.turn t) s₁ ::
      history p.step (ts.map .turn ++ (List.replicate ticks (.tick :: (t :: ts).map .turn)).flatten)
        (entry p.step (.turn t) s₁).after := by
    have hcalls : p.calls = _ := (congrArg PollSession.calls hp.symm).trans
      (calls_cons cfg sessionStart t ts ticks)
    rw [PollSession.run, hcalls, history, history, htick]
  refine ⟨_, _, _, rfl, rfl, ?_, hrun⟩
  have hlog := hfatal (entry p.step (.turn t) s₁) (by rw [hrun]; simp)
  rw [after_turn t rfl] at hlog ⊢
  rw [← hp] at hlog ⊢
  exact turn_panics cfg (t :: ts) sessionStart (ticks + 1) rfl hlog

/-- A loop that yields at its first tick does so before any turn. -/
theorem yielded_before_turns {ticks : Nat} {link : σ} {outbox : List Message} {t : Target}
    {ts : List Target} (hyield : cfg.yieldEvery = 1) :
    ∀ e ∈ (cfg.pollSession (t :: ts) sessionStart (ticks + 1)).run link outbox,
      ∀ t', e.call = .turn t' → e.before.status = .yielded := by
  intro e he t' hcall
  rw [PollSession.run, calls_cons, history, after_tick rfl] at he
  have hstop := (tick_yields
    ((yields_first_iff cfg (t :: ts) sessionStart (ticks + 1) link outbox).mpr hyield)).2
  rcases List.mem_cons.mp he with rfl | he
  · cases hcall
  · rw [before_of_stopped (by rw [hstop]; decide) e he, hstop]

/-- There is a turn behind the first one, unless there is one target and one tick. -/
theorem no_turn_behind {t : Target} {ts : List Target} {ticks : Nat}
    (h : ∀ t' ∈ t :: ts, .turn t' ∉ ts.map LoopCall.turn
      ++ (List.replicate ticks (.tick :: (t :: ts).map .turn)).flatten) : ts = [] ∧ ticks = 0 := by
  cases ts with
  | cons t₂ ts => exact absurd (by simp) (h t₂ (by simp))
  | nil =>
    cases ticks with
    | zero => exact ⟨rfl, rfl⟩
    | succ ticks => exact absurd (by simp [List.replicate_succ]) (h t (by simp))

/-- **When no turn is prevented**: the first turn panics, so there must not be a second one. -/
theorem no_turn_prevented_iff {ticks : Nat} {link : σ} {outbox : List Message}
    (hfatal : NoFatal ((cfg.pollSession targets sessionStart ticks).run link outbox)) :
    (∀ t ∈ targets, ∀ e ∈ (cfg.pollSession targets sessionStart ticks).run link outbox,
        e.call = .turn t → e.before.status = .polling ∨ e.before.status = .yielded) ↔
      ticks = 0 ∨ cfg.yieldEvery = 1 ∨ targets = [] ∨ (targets.length = 1 ∧ ticks = 1) := by
  cases ticks with
  | zero =>
    refine iff_of_true ?_ (.inl rfl)
    intro t ht e he
    cases he
  | succ ticks =>
    cases targets with
    | nil =>
      refine iff_of_true ?_ (.inr (.inr (.inl rfl)))
      intro t ht
      cases ht
    | cons t ts =>
      by_cases hyield : cfg.yieldEvery = 1
      · refine iff_of_true ?_ (.inr (.inl hyield))
        intro t' ht' e he hcall
        exact .inr (yielded_before_turns cfg sessionStart hyield e he t' hcall)
      · obtain ⟨e₀, e₁, s, htick, hpolls, hpanicked, hrun⟩ :=
          run_cons cfg sessionStart hyield hfatal
        have hstopped : s.status ≠ .polling := by rw [hpanicked]; decide
        rw [hrun]
        constructor
        · intro hnever
          -- a call behind the first turn would find the loop panicked
          have hnone : ∀ t' ∈ t :: ts, .turn t' ∉ ts.map LoopCall.turn
              ++ (List.replicate ticks (.tick :: (t :: ts).map .turn)).flatten := by
            intro t' ht' hmem
            obtain ⟨e, he, hcall, hbefore⟩ :=
              mem_stopped (p := cfg.pollSession (t :: ts) sessionStart (ticks + 1)) hmem hstopped
            have hstatus :=
              hnever t' ht' e (List.mem_cons_of_mem _ (List.mem_cons_of_mem _ he)) hcall
            rw [hbefore, hpanicked] at hstatus
            rcases hstatus with hstatus | hstatus
            · cases hstatus
            · cases hstatus
          obtain ⟨rfl, rfl⟩ := no_turn_behind hnone
          exact .inr (.inr (.inr ⟨rfl, rfl⟩))
        · rintro (hticks | hone | hnil | ⟨hlength, hticks⟩)
          · omega
          · exact absurd hone hyield
          · cases hnil
          · obtain rfl : ts = [] := List.length_eq_zero_iff.mp (by simpa using hlength)
            obtain rfl : ticks = 0 := by omega
            intro t' _ e he hcall
            rcases List.mem_cons.mp he with rfl | he
            · cases htick.symm.trans hcall
            · rcases List.mem_cons.mp he with rfl | he
              · exact .inl hpolls
              · cases he

/-- **When the targets of a session are isolated**, in a run without a fatal error: if nobody is
    polled, or a single target once. -/
theorem isolated_iff {ticks : Nat} {link : σ} {outbox : List Message}
    (hfatal : NoFatal ((cfg.pollSession targets sessionStart ticks).run link outbox)) :
    (∀ t ∈ targets, Isolated (cfg.pollSession targets sessionStart ticks) link outbox t) ↔
      ticks = 0 ∨ cfg.yieldEvery = 1 ∨ targets = [] ∨ (targets.length = 1 ∧ ticks = 1) := by
  rw [← no_turn_prevented_iff cfg targets sessionStart hfatal]
  constructor
  · intro h t ht
    exact (h t ht).1
  · intro h t ht
    exact ⟨h t ht, fun _ _ _ _ _ _ hturns hturns' => turnsOf_eq _ rfl hturns hturns'⟩

end

end

namespace Task

/-- A second device, at the same repeater. -/
def secondTarget : Target := ⟨⟨"garage", 2120121383, "SB 2000HF-30", ""⟩, 110, 2120121383⟩

/-- Silence is not fatal. -/
theorem noFatal_silent :
    NoFatal ((sampleCfg.pollSession [sampleTarget, secondTarget] 0 1).run (SilentLink.mk 0) []) := by
  show ∀ e ∈ _, ∀ ev ∈ _, _
  decide +kernel

end Task

/-- The first device is silent, and the second one has no turn. -/
theorem targets_not_isolated :
    ¬ ∀ (cfg : InverterCfg) (targets : List Target) (sessionStart : Int) (ticks : Nat)
      (link : Task.SilentLink) (outbox : List Message), (targets.map Target.serial).Nodup →
        NoFatal ((cfg.pollSession targets sessionStart ticks).run link outbox) →
        ∀ t ∈ targets, Isolated (cfg.pollSession targets sessionStart ticks) link outbox t := by
  intro hall
  have hboth := hall Task.sampleCfg [Task.sampleTarget, Task.secondTarget] 0 1 ⟨0⟩ [] (by decide)
    Task.noFatal_silent
  have hcond := (no_turn_prevented_iff Task.sampleCfg [Task.sampleTarget, Task.secondTarget] 0
    Task.noFatal_silent).mp fun t ht => (hboth t ht).1
  exact absurd hcond (by decide)

/-- Two silent devices, one tick. -/
theorem isolated_iff_silent :
    ¬ ∀ t ∈ [Task.sampleTarget, Task.secondTarget],
      Isolated (Task.sampleCfg.pollSession [Task.sampleTarget, Task.secondTarget] 0 1)
        (Task.SilentLink.mk 0) [] t :=
  mt (isolated_iff Task.sampleCfg [Task.sampleTarget, Task.secondTarget] 0 Task.noFatal_silent).mp
    (by decide)

end HassSma
