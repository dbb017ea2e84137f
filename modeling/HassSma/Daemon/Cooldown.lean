/-
  The cooldown of a target (`target_consecutive_failures`, `target_skip_until` and
  `COOLDOWN_LADDER_SECS` of `run_inverter` in `daemon/src/main.rs`).

  Two maps are kept up on different branches of a turn: the counter on every sweep, the end of the
  cooldown from the third failure on, and the removal of that end only where an expired one is
  found.  What they amount to is said here by the turns that a target has had, as they are seen: whether
  it was queried and what was replied, and what the clock read.

  1. **What a turn does** — `tells_ownTurn`: a turn that is skipped, completed or failed leaves the
     entries that `TurnStep` says, and is seen as such.
  2. **The entries are the past** — `Counts`: the counter is the number of failed sweeps since the
     last completed one (as far as it counts), the end of the cooldown is the time of the last failure
     and the rung that belongs to that number.  `Counts.step` is one turn, `counts_before` any run.
  3. **The automaton** — `cooldown_automaton`: which turns are skipped, and what they change.

  All of it holds over any publisher.
-/
import HassSma.Daemon.Isolation
import HassSma.Lib.Telling

namespace HassSma

open Fallible Telling History

/-! ## What is seen of a turn -/

/-- How a turn goes: the target is passed over, or its sweep has no error, or it has one. -/
inductive TurnKind where
  | skipped
  | completed
  | failed
  deriving DecidableEq, Repr

namespace LinkEvent

def reply : LinkEvent → Option (Except SessionError (List UInt8))
  | query _ _ _ result => some result
  | _ => none

def reading : LinkEvent → Option Nat
  | instant reading => some reading
  | _ => none

end LinkEvent

namespace TurnSeen

/-- The replies to the sweep. -/
def replies (turn : TurnSeen) : List (Except SessionError (List UInt8)) :=
  turn.events.filterMap LinkEvent.reply

def kind (turn : TurnSeen) : TurnKind :=
  if turn.replies.isEmpty then .skipped
  else if turn.replies.all Except.isOk then .completed
  else .failed

/-- What the clock read when the turn began, if it was read. -/
def clockAtGate (turn : TurnSeen) : Option Nat := turn.events.head?.bind LinkEvent.reading

/-- What the clock read when a failure was booked, if it was read. -/
def clockAtFailure (turn : TurnSeen) : Option Nat := turn.events.getLast?.bind LinkEvent.reading

end TurnSeen

namespace TurnSeen

variable {turn : TurnSeen}

theorem kind_completed (hasks : turn.replies ≠ []) (h : turn.replies.all Except.isOk = true) :
    turn.kind = .completed := by
  rw [kind, if_neg (by simpa using hasks), if_pos h]

theorem kind_failed (hasks : turn.replies ≠ []) (h : turn.replies.all Except.isOk = false) :
    turn.kind = .failed := by
  rw [kind, if_neg (by simpa using hasks), if_neg (by rw [h]; exact Bool.false_ne_true)]

theorem kind_ne_skipped (hasks : turn.replies ≠ []) : turn.kind ≠ .skipped := by
  cases h : turn.replies.all Except.isOk with
  | true =>
    rw [kind_completed hasks h]
    decide
  | false =>
    rw [kind_failed hasks h]
    decide

end TurnSeen

/-! ## The automaton -/

/-- The failed sweeps since the last completed one. -/
def failuresSince (turns : List TurnSeen) : Nat :=
  (turns.reverse.takeWhile fun turn => turn.kind ≠ .completed).countP fun turn => turn.kind = .failed

/-- The time of the last failed sweep. -/
def lastFailure (turns : List TurnSeen) : Option Nat :=
  (turns.reverse.find? fun turn => turn.kind = .failed).bind TurnSeen.clockAtFailure

/-- The seconds of cooldown behind so many failures. -/
def cooldownSecs (failures : Nat) : Nat :=
  if failures = 3 then 60 else if failures = 4 then 300 else if failures = 5 then 900 else 1800

/-- When the cooldown of a target ends, if it is in one. -/
def cooldownEnd (turns : List TurnSeen) : Option Nat :=
  if failuresSince turns < 3 then none
  else (lastFailure turns).map (· + cooldownSecs (failuresSince turns) * 1000000000)

section

variable (turns : List TurnSeen) {turn : TurnSeen}

theorem failuresSince_skipped (h : turn.kind = .skipped) :
    failuresSince (turns ++ [turn]) = failuresSince turns := by
  simp [failuresSince, h]

theorem failuresSince_completed (h : turn.kind = .completed) :
    failuresSince (turns ++ [turn]) = 0 := by
  simp [failuresSince, h]

theorem failuresSince_failed (h : turn.kind = .failed) :
    failuresSince (turns ++ [turn]) = failuresSince turns + 1 := by
  simp [failuresSince, h]

theorem lastFailure_of_ne (h : turn.kind ≠ .failed) :
    lastFailure (turns ++ [turn]) = lastFailure turns := by
  simp [lastFailure, h]

theorem lastFailure_failed (h : turn.kind = .failed) :
    lastFailure (turns ++ [turn]) = turn.clockAtFailure := by
  simp [lastFailure, h]

theorem cooldownEnd_skipped (h : turn.kind = .skipped) :
    cooldownEnd (turns ++ [turn]) = cooldownEnd turns := by
  rw [cooldownEnd, failuresSince_skipped turns h, lastFailure_of_ne turns (by rw [h]; decide)]
  rfl

end

/-! ## One turn -/

namespace Task

/-- The gate is open: there is no cooldown, or the clock has reached its end. -/
def PassesGate (own : OwnState) (turn : TurnSeen) : Prop :=
  ∀ skipUntil, own.skipUntil = some skipUntil →
    ∃ now, turn.clockAtGate = some now ∧ skipUntil ≤ now

/-- **What a turn does** to the entries of its target, and how it is seen. -/
inductive TurnStep (own : OwnState) (turn : TurnSeen) : Except Panic (Option OwnState) → Prop
  | skipped {now skipUntil : Nat} (hkind : turn.kind = .skipped)
      (hskip : own.skipUntil = some skipUntil) (hnow : turn.clockAtGate = some now)
      (hbefore : now < skipUntil) : TurnStep own turn (.ok (some own))
  | completed (hgate : PassesGate own turn) (hkind : turn.kind = .completed) :
      TurnStep own turn (.ok (some ⟨some 0, none⟩))
  | failed (hgate : PassesGate own turn) (hkind : turn.kind = .failed)
      (hfew : own.countFailure < cooldownThreshold) :
      TurnStep own turn (.ok (some ⟨some own.countFailure, none⟩))
  | cooling {failedAt : Nat} (hgate : PassesGate own turn) (hkind : turn.kind = .failed)
      (hmany : cooldownThreshold ≤ own.countFailure) (hclock : turn.clockAtFailure = some failedAt) :
      TurnStep own turn (.ok (some ⟨some own.countFailure,
        some (failedAt + cooldownLadderSecs.getD (own.countFailure - cooldownThreshold).toNat 1800
          * 1000000000)⟩))
  | stopped {r : Except Panic (Option OwnState)} (hgate : PassesGate own turn)
      (hkind : turn.kind ≠ .skipped) (hr : ∀ own', r ≠ .ok (some own')) : TurnStep own turn r

section

variable {σ : Type} [Link σ]

/-- What passes the link is logged. -/
abbrev TellsLink {α : Type} (x : TaskM (Watched σ) α)
    (P : List LinkEvent → Except Panic α → Prop) : Prop := Tells (fun w => w.link.log) x P

omit [Link σ] in
/-- One question is one event. -/
theorem tells_ask {α : Type} {f : Watched σ → α × Watched σ} (event : α → LinkEvent)
    (hf : ∀ w, (f w).2.log = w.log ++ [event (f w).1]) :
    TellsLink (ask f) fun es r => ∃ a, r = .ok a ∧ es = [event a] :=
  fun w => ⟨[event (f w.link).1], hf w.link, (f w.link).1, rfl, rfl⟩

theorem tells_instantNow : TellsLink (σ := σ) (ask Link.instantNow)
    fun es r => ∃ now, r = .ok now ∧ es = [.instant now] := tells_ask .instant fun _ => rfl

theorem tells_utcNow : TellsLink (σ := σ) (ask Link.utcNow)
    fun es r => ∃ now, r = .ok now ∧ es = [.utc now] := tells_ask .utc fun _ => rfl

variable (say : Publisher)

omit [Link σ] in
/-- Nothing passes the link while something is published. -/
theorem tells_sayValue (identity : InverterIdentity) (sensorKey : String) (value : Reading) :
    TellsLink (sayValue say identity sensorKey value : TaskM (Watched σ) Unit)
      fun es _ => es = [] := by
  unfold sayValue
  cases say identity sensorKey value with
  | ok m => exact fun w => ⟨[], (List.append_nil w.link.log).symm, rfl⟩
  | error panic => exact tells_throw rfl

omit [Link σ] in
theorem tells_sayReadings (identity : InverterIdentity) (readings : List (String × Option Reading)) :
    TellsLink (sayReadings say identity readings : TaskM (Watched σ) Unit)
      fun es _ => es = [] := by
  induction readings with
  | nil => exact tells_pure rfl
  | cons r rest ih =>
    obtain ⟨sensorKey, value⟩ := r
    cases value with
    | none => exact ih
    | some value =>
      exact (tells_sayValue say identity sensorKey value).quiet_bind (fun _ => rfl) fun _ => ih

/-- How a sweep ends shows in its replies, of which there is one unless there is nothing to ask. -/
structure SweepSeen (kinds : List QueryKind) (es : List LinkEvent) (r : Except Panic SweepEnd) :
    Prop where
  asks : kinds ≠ [] → es.filterMap LinkEvent.reply ≠ []
  completed : r = .ok .completed → (es.filterMap LinkEvent.reply).all Except.isOk = true
  failed : r = .ok .failed → (es.filterMap LinkEvent.reply).all Except.isOk = false

theorem tells_ownSweep (t : Target) (kinds : List QueryKind) :
    TellsLink (ownSweep say t kinds : TaskM (Watched σ) SweepEnd) (SweepSeen kinds) := by
  induction kinds with
  | nil =>
    apply tells_pure
    exact ⟨fun h => absurd rfl h, fun _ => rfl, fun h => by cases h⟩
  | cons kind kinds ih =>
    have hquery : TellsLink (queryForDevice t kind : TaskM (Watched σ) _)
        fun es r => ∃ result, r = .ok result ∧ es = [.query t.susyId t.serial kind result] :=
      tells_ask (.query t.susyId t.serial kind) fun _ => rfl
    have hpanic : ∀ result panic, SweepSeen (kind :: kinds)
        ([.query t.susyId t.serial kind result] ++ []) (.error panic) := by
      intro result panic
      exact ⟨fun _ => List.cons_ne_nil _ _, fun h => (by cases h), fun h => by cases h⟩
    refine hquery.bind (fun es e ⟨_, hr, _⟩ => by cases hr) ?_
    rintro es result ⟨_, hr, rfl⟩
    obtain rfl := Except.ok.inj hr
    cases result with
    | error e =>
      refine (tells_sayValue say t.identity _ _).quiet_bind (fun panic => hpanic _ panic) fun _ => ?_
      apply tells_pure
      refine ⟨fun _ => List.cons_ne_nil _ _, fun h => ?_, fun _ => rfl⟩
      have hending := Except.ok.inj h
      split at hending
      · cases hending
      · cases hending
    | ok body =>
      refine (tells_sayReadings say t.identity _).quiet_bind (fun panic => hpanic _ panic) fun _ => ?_
      refine ih.mono fun es r hsweep => ?_
      -- a good reply in front changes neither answer
      exact ⟨fun _ => List.cons_ne_nil _ _, hsweep.completed, hsweep.failed⟩

/-- The gate lets the turn begin, and forgets a cooldown that is over. -/
inductive GateSeen (own : OwnState) : List LinkEvent → Except Panic (Bool × OwnState) → Prop
  | closed {now skipUntil : Nat} (hskip : own.skipUntil = some skipUntil)
      (hbefore : now < skipUntil) : GateSeen own [.instant now] (.ok (true, own))
  | unguarded (hskip : own.skipUntil = none) : GateSeen own [] (.ok (false, ⟨own.failures, none⟩))
  | expired {now skipUntil : Nat} (hskip : own.skipUntil = some skipUntil)
      (hexpired : skipUntil ≤ now) :
      GateSeen own [.instant now] (.ok (false, ⟨own.failures, none⟩))

omit say in
theorem tells_ownGate (own : OwnState) :
    TellsLink (ownGate own : TaskM (Watched σ) (Bool × OwnState)) (GateSeen own) := by
  obtain ⟨failures, skip⟩ := own
  unfold ownGate
  cases skip with
  | none => exact tells_pure (.unguarded rfl)
  | some skipUntil =>
    refine tells_instantNow.bind (fun es e ⟨_, hr, _⟩ => by cases hr) ?_
    rintro es now ⟨_, hr, rfl⟩
    obtain rfl := Except.ok.inj hr
    split
    · rename_i hbefore
      exact tells_pure (.closed rfl hbefore)
    · rename_i hexpired
      exact tells_pure (.expired rfl (Nat.le_of_not_lt hexpired))

/-- A completed sweep takes the counter back. -/
theorem tells_ownCompleted (sessionStart : Int) (t : Target) (own : OwnState) :
    TellsLink (ownCompleted say sessionStart t own : TaskM (Watched σ) OwnState)
      fun es r => es.filterMap LinkEvent.reply = [] ∧
        ∀ own', r = .ok own' → own' = { own with failures := some 0 } := by
  refine tells_utcNow.bind (fun es e ⟨_, hr, _⟩ => by cases hr) ?_
  rintro es now ⟨_, -, rfl⟩
  have hsay := tells_sayValue (σ := σ) say t.identity
  refine (hsay _ _).quiet_bind (fun _ => ⟨rfl, fun own' h => by cases h⟩) fun _ => ?_
  refine (hsay _ _).quiet_bind (fun _ => ⟨rfl, fun own' h => by cases h⟩) fun _ => ?_
  refine (hsay _ _).quiet_bind (fun _ => ⟨rfl, fun own' h => by cases h⟩) fun _ => ?_
  refine (hsay _ _).quiet_bind (fun _ => ⟨rfl, fun own' h => by cases h⟩) fun _ => ?_
  exact tells_pure ⟨rfl, fun own' h => (Except.ok.inj h).symm⟩

/-- A failed sweep is counted, and from the third on the clock is read. -/
inductive FailureSeen (own : OwnState) : List LinkEvent → Except Panic OwnState → Prop
  | panicked (panic : Panic) : FailureSeen own [] (.error panic)
  | counted (hfew : own.countFailure < cooldownThreshold) :
      FailureSeen own [] (.ok ⟨some own.countFailure, own.skipUntil⟩)
  | cooling (failedAt : Nat) (hmany : cooldownThreshold ≤ own.countFailure) :
      FailureSeen own [.instant failedAt] (.ok ⟨some own.countFailure,
        some (failedAt + cooldownLadderSecs.getD (own.countFailure - cooldownThreshold).toNat 1800
          * 1000000000)⟩)

theorem tells_ownFailed (t : Target) (own : OwnState) :
    TellsLink (ownFailed say t own : TaskM (Watched σ) OwnState) (FailureSeen own) := by
  refine (tells_sayValue say t.identity _ _).quiet_bind .panicked fun _ => ?_
  split
  · rename_i hmany
    refine tells_instantNow.bind (fun es e ⟨_, hr, _⟩ => by cases hr) ?_
    rintro es now ⟨_, hr, rfl⟩
    obtain rfl := Except.ok.inj hr
    exact tells_pure (.cooling now hmany)
  · rename_i hfew
    exact tells_pure (.counted (UInt32.not_le.mp hfew))

omit [Link σ] say in
theorem GateSeen.opens {own own' : OwnState} {es : List LinkEvent}
    (h : GateSeen own es (.ok (false, own'))) :
    own' = ⟨own.failures, none⟩ ∧ es.filterMap LinkEvent.reply = [] ∧
      ∀ more published, PassesGate own ⟨es ++ more, published⟩ := by
  cases h with
  | unguarded hskip =>
    refine ⟨rfl, rfl, fun more published skipUntil h => ?_⟩
    cases hskip.symm.trans h
  | expired hskip hexpired =>
    refine ⟨rfl, rfl, fun more published skipUntil' h => ?_⟩
    obtain rfl := Option.some.inj (hskip.symm.trans h)
    exact ⟨_, rfl, hexpired⟩

omit [Link σ] say in
/-- Only the sweep asks: its replies are the replies of the turn. -/
theorem replies_of_sweep {gate sweep book : List LinkEvent}
    (hgate : gate.filterMap LinkEvent.reply = []) (hsweep : sweep.filterMap LinkEvent.reply ≠ [])
    (hbook : book.filterMap LinkEvent.reply = []) (published : List Message) :
    TurnSeen.replies ⟨gate ++ (sweep ++ book), published⟩ ≠ [] ∧
      TurnSeen.replies ⟨gate ++ (sweep ++ book), published⟩ = sweep.filterMap LinkEvent.reply := by
  have hsame : TurnSeen.replies ⟨gate ++ (sweep ++ book), published⟩
      = sweep.filterMap LinkEvent.reply := by
    rw [TurnSeen.replies, List.filterMap_append, List.filterMap_append, hgate, hbook,
      List.append_nil, List.nil_append]
  exact ⟨by rw [hsame]; exact hsweep, hsame⟩

omit [Link σ] say in
/-- A turn that has asked, and books nothing. -/
theorem turnStep_stopped {own : OwnState} {gate sweep book : List LinkEvent}
    {r : Except Panic (Option OwnState)} (hgate : gate.filterMap LinkEvent.reply = [])
    (hpasses : ∀ more published, PassesGate own ⟨gate ++ more, published⟩)
    (hsweep : sweep.filterMap LinkEvent.reply ≠ []) (hbook : book.filterMap LinkEvent.reply = [])
    (hr : ∀ own', r ≠ .ok (some own')) (published : List Message) :
    TurnStep own ⟨gate ++ (sweep ++ book), published⟩ r :=
  .stopped (hpasses _ _) (TurnSeen.kind_ne_skipped (replies_of_sweep hgate hsweep hbook published).1)
    hr

/-- **What a turn tells.** -/
theorem tells_ownTurn (sessionStart : Int) (t : Target) (own : OwnState) :
    TellsLink (ownTurn say sessionStart t own : TaskM (Watched σ) (Option OwnState))
      fun es r => ∀ published, TurnStep own ⟨es, published⟩ r := by
  refine (tells_ownGate own).bind (fun es e hgate => by cases hgate) ?_
  rintro gate ⟨cooling, own'⟩ hgate
  cases cooling with
  | true =>
    cases hgate with
    | closed hskip hbefore => exact tells_pure fun _ => .skipped rfl hskip rfl hbefore
  | false =>
    obtain ⟨rfl, hsilent, hpasses⟩ := hgate.opens
    simp only [Bool.false_eq_true, if_false]
    have hquiet : ([] : List LinkEvent).filterMap LinkEvent.reply = [] := rfl
    refine (tells_ownSweep say t perTickQueries).bind ?_ ?_
    · intro sweep panic hsweep published
      have hstep := turnStep_stopped (r := .error panic) hsilent hpasses (hsweep.asks (by decide))
        hquiet (fun own' h => by cases h) published
      rw [List.append_nil] at hstep
      exact hstep
    · intro sweep ending hsweep
      have hasks := hsweep.asks (by decide)
      cases ending with
      | fatal =>
        exact tells_pure (turnStep_stopped hsilent hpasses hasks hquiet fun own' h => by cases h)
      | completed =>
        refine (tells_ownCompleted say sessionStart t ⟨own.failures, none⟩).bind ?_ ?_
        · intro book panic hbook
          exact turnStep_stopped hsilent hpasses hasks hbook.1 fun own' h => by cases h
        · intro book own' hbook
          obtain rfl := hbook.2 own' rfl
          refine tells_pure fun published => ?_
          obtain ⟨hne, hsame⟩ := replies_of_sweep hsilent hasks hbook.1 published
          rw [List.append_nil]
          exact .completed (hpasses _ _)
            (TurnSeen.kind_completed hne (by rw [hsame]; exact hsweep.completed rfl))
      | failed =>
        refine (tells_ownFailed say t ⟨own.failures, none⟩).bind ?_ ?_
        · intro book panic hbook
          cases hbook
          exact turnStep_stopped hsilent hpasses hasks hquiet fun own' h => by cases h
        · intro book own' hbook
          refine tells_pure fun published => ?_
          have hkind : book.filterMap LinkEvent.reply = [] →
              TurnSeen.kind ⟨gate ++ (sweep ++ book), published⟩ = .failed := by
            intro hbook
            obtain ⟨hne, hsame⟩ := replies_of_sweep hsilent hasks hbook published
            exact TurnSeen.kind_failed hne (by rw [hsame]; exact hsweep.failed rfl)
          rw [List.append_nil]
          cases hbook with
          | counted hfew => exact .failed (hpasses _ _) (hkind rfl) hfew
          | cooling failedAt hmany =>
            refine .cooling (hpasses _ _) (hkind rfl) hmany ?_
            rw [TurnSeen.clockAtFailure, ← List.append_assoc, List.getLast?_concat]
            rfl

end

end Task

/-! ## The entries are the past -/

/-- **The ladder**: from the third failure on the index is not below zero, and one beyond the last
    rung is the last rung. -/
theorem ladder_eq {cf : UInt32} (h : cooldownThreshold ≤ cf) :
    (cf - cooldownThreshold).toNat = cf.toNat - 3 ∧
      cooldownLadderSecs.getD (cf - cooldownThreshold).toNat 1800 = cooldownSecs cf.toNat := by
  have hthree : 3 ≤ cf.toNat := UInt32.le_iff_toNat_le.mp h
  have hindex : (cf - cooldownThreshold).toNat = cf.toNat - 3 := UInt32.toNat_sub_of_le _ _ h
  refine ⟨hindex, ?_⟩
  rw [hindex]
  unfold cooldownSecs
  rcases Nat.lt_or_ge cf.toNat 7 with hlow | hhigh
  · have hrung : cf.toNat = 3 ∨ cf.toNat = 4 ∨ cf.toNat = 5 ∨ cf.toNat = 6 := by omega
    rcases hrung with h3 | h4 | h5 | h6
    · rw [h3]
      rfl
    · rw [h4]
      rfl
    · rw [h5]
      rfl
    · rw [h6]
      rfl
  · have hlength : cooldownLadderSecs.length = 4 := rfl
    have hpast : cooldownLadderSecs[cf.toNat - 3]? = none := List.getElem?_eq_none (by omega)
    rw [List.getD_eq_getElem?_getD, hpast, if_neg (by omega), if_neg (by omega), if_neg (by omega)]
    rfl

/-- The counter stops at its last value, which is far behind the last rung. -/
theorem cooldownSecs_min (failures : Nat) :
    cooldownSecs (min failures 4294967295) = cooldownSecs failures := by
  unfold cooldownSecs
  rcases Nat.le_total failures 4294967295 with hle | hle
  · rw [Nat.min_eq_left hle]
  · rw [Nat.min_eq_right hle]
    simp only [Nat.reduceEqDiff, if_false]
    rw [if_neg (by omega), if_neg (by omega), if_neg (by omega)]

/-- **The entries are the past**: the counter is the number of failed sweeps since the last completed
    one, and the end of the cooldown is where that number and the last failure put it. -/
structure Counts (own : OwnState) (turns : List TurnSeen) : Prop where
  failures : (own.failures.getD 0).toNat = min (failuresSince turns) 4294967295
  skipUntil : own.skipUntil = cooldownEnd turns
  booked : 3 ≤ failuresSince turns → ∃ failedAt, lastFailure turns = some failedAt

namespace Counts

variable {own own' : OwnState} {turns : List TurnSeen} {turn : TurnSeen}

theorem new (serial : UInt32) : Counts (PollState.new.own serial) [] :=
  ⟨rfl, rfl, fun h => by cases h⟩

theorem countFailure (h : Counts own turns) :
    own.countFailure.toNat = min (failuresSince turns + 1) 4294967295 := by
  have hbefore := h.failures
  simp only [OwnState.countFailure]
  split
  · rename_i hfull
    rw [hfull] at hbefore ⊢
    have hmax : (0xFFFFFFFF : UInt32).toNat = 4294967295 := rfl
    omega
  · rename_i hroom
    have hne : (own.failures.getD 0).toNat ≠ 4294967295 := fun h => hroom (UInt32.toNat_inj.mp h)
    rw [UInt32.toNat_add]
    show ((own.failures.getD 0).toNat + 1) % 4294967296 = _
    omega

/-- **One turn.** -/
theorem step (h : Counts own turns) (hturn : Task.TurnStep own turn (.ok (some own'))) :
    Counts own' (turns ++ [turn]) := by
  have hcount := h.countFailure
  cases hturn with
  | skipped hkind hskip hnow hbefore =>
    constructor
    · rw [failuresSince_skipped turns hkind]
      exact h.failures
    · rw [cooldownEnd_skipped turns hkind]
      exact h.skipUntil
    · rw [failuresSince_skipped turns hkind, lastFailure_of_ne turns (by rw [hkind]; decide)]
      exact h.booked
  | completed hgate hkind =>
    have hnone := failuresSince_completed turns hkind
    constructor
    · rw [hnone]
      rfl
    · rw [cooldownEnd, hnone]
      rfl
    · rw [hnone]
      intro h
      cases h
  | failed hgate hkind hfew =>
    have hmore := failuresSince_failed turns hkind
    have hbelow : failuresSince turns + 1 < 3 := by
      have hlt : own.countFailure.toNat < 3 := UInt32.lt_iff_toNat_lt.mp hfew
      omega
    constructor
    · rw [hmore]
      exact hcount
    · rw [cooldownEnd, hmore, if_pos hbelow]
    · rw [hmore]
      intro h
      omega
  | cooling hgate hkind hmany hclock =>
    have hmore := failuresSince_failed turns hkind
    have hlast := lastFailure_failed turns hkind
    have habove : ¬ failuresSince turns + 1 < 3 := by
      have hle : 3 ≤ own.countFailure.toNat := UInt32.le_iff_toNat_le.mp hmany
      omega
    constructor
    · rw [hmore]
      exact hcount
    · rw [cooldownEnd, hmore, if_neg habove, hlast, hclock, (ladder_eq hmany).2, hcount,
        cooldownSecs_min]
      rfl
    · intro _
      exact ⟨_, hlast.trans hclock⟩
  | stopped hgate hkind hstop => exact absurd rfl (hstop own')

/-- Where a cooldown ends that there is. -/
theorem skipUntil_iff (h : Counts own turns) (skipUntil : Nat) :
    own.skipUntil = some skipUntil ↔ 3 ≤ failuresSince turns ∧ ∃ failedAt,
      lastFailure turns = some failedAt ∧
        failedAt + cooldownSecs (failuresSince turns) * 1000000000 = skipUntil := by
  rw [h.skipUntil, cooldownEnd]
  split
  · rename_i hfew
    constructor
    · intro hnone
      cases hnone
    · rintro ⟨hmany, -⟩
      omega
  · rename_i hmany
    rw [Option.map_eq_some_iff, and_iff_right (by omega)]

/-- **Which turns are skipped.** -/
theorem skipped_iff (h : Counts own turns) {r : Except Panic (Option OwnState)}
    (hturn : Task.TurnStep own turn r) :
    turn.kind = .skipped ↔ 3 ≤ failuresSince turns ∧ ∃ now failedAt,
      turn.clockAtGate = some now ∧ lastFailure turns = some failedAt ∧
        now < failedAt + cooldownSecs (failuresSince turns) * 1000000000 := by
  have hopen : Task.PassesGate own turn → ¬ (3 ≤ failuresSince turns ∧ ∃ now failedAt,
      turn.clockAtGate = some now ∧ lastFailure turns = some failedAt ∧
        now < failedAt + cooldownSecs (failuresSince turns) * 1000000000) := by
    rintro hgate ⟨hmany, now, failedAt, hnow, hlast, hbefore⟩
    obtain ⟨now', hnow', hafter⟩ :=
      hgate _ ((h.skipUntil_iff _).mpr ⟨hmany, failedAt, hlast, rfl⟩)
    obtain rfl := Option.some.inj (hnow.symm.trans hnow')
    omega
  cases hturn with
  | skipped hkind hskip hnow hbefore =>
    refine iff_of_true hkind ?_
    obtain ⟨hmany, failedAt, hlast, rfl⟩ := (h.skipUntil_iff _).mp hskip
    exact ⟨hmany, _, failedAt, hnow, hlast, hbefore⟩
  | completed hgate hkind => exact iff_of_false (by rw [hkind]; decide) (hopen hgate)
  | failed hgate hkind hfew => exact iff_of_false (by rw [hkind]; decide) (hopen hgate)
  | cooling hgate hkind hmany hclock => exact iff_of_false (by rw [hkind]; decide) (hopen hgate)
  | stopped hgate hkind hr => exact iff_of_false hkind (hopen hgate)

/-- From the third failure on, both clocks have been read. -/
theorem clocks_read (h : Counts own turns) {r : Except Panic (Option OwnState)}
    (hturn : Task.TurnStep own turn r) (hmany : 3 ≤ failuresSince turns) :
    ∃ now failedAt, turn.clockAtGate = some now ∧ lastFailure turns = some failedAt := by
  obtain ⟨failedAt, hlast⟩ := h.booked hmany
  have hskip := (h.skipUntil_iff _).mpr ⟨hmany, failedAt, hlast, rfl⟩
  have hopen : Task.PassesGate own turn → ∃ now failedAt, turn.clockAtGate = some now ∧
      lastFailure turns = some failedAt := by
    intro hgate
    obtain ⟨now, hnow, -⟩ := hgate _ hskip
    exact ⟨now, failedAt, hnow, hlast⟩
  cases hturn with
  | skipped hkind hskip hnow hbefore => exact ⟨_, failedAt, hnow, hlast⟩
  | completed hgate hkind => exact hopen hgate
  | failed hgate hkind hfew => exact hopen hgate
  | cooling hgate hkind hmany hclock => exact hopen hgate
  | stopped hgate hkind hr => exact hopen hgate

end Counts

namespace Task.TurnStep

variable {own : OwnState} {turn : TurnSeen} {r : Except Panic (Option OwnState)}

theorem of_skipped (h : TurnStep own turn r) (hkind : turn.kind = .skipped) :
    r = .ok (some own) := by
  cases h with
  | skipped => rfl
  | completed hgate hother => cases hkind.symm.trans hother
  | failed hgate hother => cases hkind.symm.trans hother
  | cooling hgate hother => cases hkind.symm.trans hother
  | stopped hgate hother => exact absurd hkind hother

theorem of_completed {own' : OwnState} (h : TurnStep own turn (.ok (some own')))
    (hkind : turn.kind = .completed) : own' = ⟨some 0, none⟩ := by
  cases h with
  | skipped hother => cases hkind.symm.trans hother
  | completed => rfl
  | failed hgate hother => cases hkind.symm.trans hother
  | cooling hgate hother => cases hkind.symm.trans hother
  | stopped hgate hother hstop => exact absurd rfl (hstop own')

end Task.TurnStep

/-! ## Any run -/

section

variable {σ : Type}

theorem turnsOf_append (serial : UInt32) (es es' : List (LoopEntry (Watched σ))) :
    turnsOf serial (es ++ es') = turnsOf serial es ++ turnsOf serial es' := by
  rw [turnsOf, List.filter_append, List.map_append]
  rfl

theorem turnsOf_turn {serial : UInt32} {e : LoopEntry (Watched σ)} (h : isTurn serial e = true)
    (past : List (LoopEntry (Watched σ))) :
    turnsOf serial (past ++ [e]) = turnsOf serial past ++ [seen e] := by
  rw [turnsOf_append, turnsOf, turnsOf, List.filter_cons_of_pos h]
  rfl

theorem turnsOf_other {serial : UInt32} {e : LoopEntry (Watched σ)} (h : isTurn serial e = false)
    (past : List (LoopEntry (Watched σ))) :
    turnsOf serial (past ++ [e]) = turnsOf serial past := by
  rw [turnsOf_append, turnsOf, turnsOf,
    List.filter_cons_of_neg (by rw [h]; exact Bool.false_ne_true)]
  exact List.append_nil _

variable [Link σ] {p : PollSession}

/-- The turn of an entry, as it is seen. -/
theorem turnStep_seen (t : Target) {s : LoopState (Watched σ)} (hpolls : s.status = .polling) :
    Task.TurnStep (s.poll.own t.serial) (seen (entry p.step (.turn t) s))
      (value ((Task.ownTurn p.say p.sessionStart t (s.poll.own t.serial)).run s.task)) := by
  obtain ⟨es, hlog, hstep⟩ :=
    Task.tells_ownTurn p.say p.sessionStart t (s.poll.own t.serial) s.task
  have htask : (entry p.step (.turn t) s).after.task = _ :=
    (congrArg LoopState.task (after_turn t hpolls)).trans (turn_task t s)
  have hevents : (seen (entry p.step (.turn t) s)).events = es := by
    rw [seen, htask]
    exact (congrArg (List.drop _) hlog).trans List.drop_left
  have hseen := hstep (seen (entry p.step (.turn t) s)).published
  rw [← hevents] at hseen
  exact hseen

/-- A loop that polls on has booked its turn. -/
theorem value_of_polls {t : Target} {s : LoopState (Watched σ)}
    (h : (p.turn t s).status = .polling) :
    value ((Task.ownTurn p.say p.sessionStart t (s.poll.own t.serial)).run s.task)
      = .ok (some ((p.turn t s).poll.own t.serial)) := by
  rw [turn_own]
  rw [PollSession.turn] at h
  cases hrun : (Task.ownTurn p.say p.sessionStart t (s.poll.own t.serial)).run s.task with
  | error panic w =>
    rw [hrun] at h
    cases h
  | ok own w =>
    cases own with
    | none =>
      rw [hrun] at h
      cases h
    | some own => rfl

/-- **In front of every call**, the entries of a target are its past. -/
theorem counts_before {cs : List LoopCall} {link : σ} {outbox : List Message} (serial : UInt32)
    {past future : List (LoopEntry (Watched σ))} {e : LoopEntry (Watched σ)}
    (hrun : history p.step cs (.start link outbox) = past ++ e :: future)
    (hpolls : e.before.status = .polling) :
    Counts (e.before.poll.own serial) (turnsOf serial past) := by
  refine history_before
    (I := fun past s => s.status = .polling → Counts (s.poll.own serial) (turnsOf serial past))
    ?_ (fun _ => Counts.new serial) hrun hpolls
  intro past c s hI hafter
  by_cases hs : s.status = .polling
  · have hcounts := hI hs
    cases c with
    | tick =>
      rw [turnsOf_other rfl, after_tick hs, tick_own]
      exact hcounts
    | turn t =>
      by_cases hserial : t.serial = serial
      · subst hserial
        have hturn : isTurn t.serial (entry p.step (.turn t) s) = true :=
          decide_eq_true ⟨rfl, hs⟩
        have hstep := turnStep_seen (p := p) t hs
        rw [after_turn t hs] at hafter
        rw [value_of_polls hafter] at hstep
        rw [turnsOf_turn hturn, after_turn t hs]
        exact hcounts.step hstep
      · have hother : isTurn serial (entry p.step (.turn t) s) = false :=
          decide_eq_false fun h => hserial h.1
        rw [turnsOf_other hother, after_turn t hs, turn_own_of_ne (Ne.symm hserial)]
        exact hcounts
  · have hstays : (entry p.step c s).after = s := if_neg hs
    rw [hstays] at hafter
    exact absurd hafter hs

/-- **A turn in a run**: what it finds is its past, and what it does is one step. -/
theorem turn_of_run {cs : List LoopCall} {link : σ} {outbox : List Message} {serial : UInt32}
    {past future : List (LoopEntry (Watched σ))} {e : LoopEntry (Watched σ)}
    (hrun : history p.step cs (.start link outbox) = past ++ e :: future)
    (hturn : isTurn serial e = true) :
    ∃ t, t.serial = serial ∧ e.after = p.turn t e.before ∧
      Counts (e.before.poll.own t.serial) (turnsOf t.serial past) ∧
      Task.TurnStep (e.before.poll.own t.serial) (seen e)
        (value ((Task.ownTurn p.say p.sessionStart t (e.before.poll.own t.serial)).run
          e.before.task)) := by
  have hentry := eq_entry_of_mem
    (show e ∈ history p.step cs (.start link outbox) by rw [hrun]; simp)
  cases hcall : e.call with
  | tick =>
    rw [isTurn, hcall] at hturn
    cases hturn
  | turn t =>
    obtain ⟨rfl, hpolls⟩ : t.serial = serial ∧ e.before.status = .polling := by
      rw [isTurn, hcall] at hturn
      exact of_decide_eq_true hturn
    rw [hcall] at hentry
    have hstep := turnStep_seen (p := p) t hpolls
    rw [← hentry] at hstep
    refine ⟨t, rfl, ?_, counts_before t.serial hrun hpolls, hstep⟩
    rw [hentry]
    exact after_turn t hpolls

/-- **The cooldown automaton** of one target, in any session and at any of its turns.  With `c` failed
    sweeps since the last completed one, the turn is skipped exactly if `c` is at least 3 and the clock
    stands before the time of the last failure and the rung of `c`; both have been read then.  A
    turn that is skipped changes nothing, one that is completed takes `c` back to 0, and the entries are
    what the turns so far say, before and behind it.  The index into the ladder is not below zero, and
    whatever the counter, the rung is the one that belongs to it. -/
theorem cooldown_automaton (p : PollSession) (link : σ) (outbox : List Message) (serial : UInt32)
    {past future : List (LoopEntry (Watched σ))} {e : LoopEntry (Watched σ)}
    (hrun : p.run link outbox = past ++ e :: future) (hturn : isTurn serial e = true) :
    let turns := turnsOf serial past
    let turns' := turnsOf serial (past ++ [e])
    let c := failuresSince turns
    ((seen e).kind = .skipped ↔ 3 ≤ c ∧ ∃ now failedAt, (seen e).clockAtGate = some now ∧
        lastFailure turns = some failedAt ∧ now < failedAt + cooldownSecs c * 1000000000) ∧
      (3 ≤ c → ∃ now failedAt, (seen e).clockAtGate = some now ∧
        lastFailure turns = some failedAt) ∧
      ((seen e).kind = .skipped → e.after.poll.own serial = e.before.poll.own serial ∧
        failuresSince turns' = c ∧ cooldownEnd turns' = cooldownEnd turns) ∧
      ((seen e).kind = .completed → failuresSince turns' = 0 ∧
        (e.after.status = .polling → e.after.poll.own serial = ⟨some 0, none⟩)) ∧
      Counts (e.before.poll.own serial) turns ∧
      (e.after.status = .polling → Counts (e.after.poll.own serial) turns') ∧
      ∀ cf, cooldownThreshold ≤ cf → (cf - cooldownThreshold).toNat = cf.toNat - 3 ∧
        cooldownLadderSecs.getD (cf - cooldownThreshold).toNat 1800 = cooldownSecs cf.toNat := by
  intro turns turns' c
  obtain ⟨t, rfl, hafter, hcounts, hstep⟩ := turn_of_run hrun hturn
  have hturns : turns' = turns ++ [seen e] := turnsOf_turn hturn past
  refine ⟨hcounts.skipped_iff hstep, hcounts.clocks_read hstep, ?_, ?_, hcounts, ?_,
    fun cf hcf => ladder_eq hcf⟩
  · intro hkind
    rw [hafter, turn_own, hstep.of_skipped hkind, hturns]
    exact ⟨rfl, failuresSince_skipped turns hkind, cooldownEnd_skipped turns hkind⟩
  · intro hkind
    rw [hturns]
    refine ⟨failuresSince_completed turns hkind, fun hon => ?_⟩
    rw [hafter] at hon ⊢
    rw [value_of_polls hon] at hstep
    exact hstep.of_completed hkind
  · intro hon
    rw [hafter] at hon ⊢
    rw [value_of_polls hon] at hstep
    rw [hturns]
    exact hcounts.step hstep

end

/-- A silent device that is polled four times, with a publisher that knows every key. -/
def silentSession : PollSession :=
  ⟨fun _ sensorKey value => .ok ⟨sensorKey, false, .value value⟩, 0, 0, [Task.sampleTarget], 4⟩

/-- The third failure is booked at 45 s, so the fourth turn is skipped. -/
theorem cooldown_silent :
    ∃ past e, silentSession.run (Task.SilentLink.mk 0) [] = past ++ [e] ∧
      failuresSince (turnsOf Task.sampleTarget.serial past) = 3 ∧ (seen e).kind = .skipped ∧
      e.after.poll.own Task.sampleTarget.serial = e.before.poll.own Task.sampleTarget.serial := by
  obtain ⟨e, hrun, hturn, hnow⟩ : ∃ e, silentSession.run (Task.SilentLink.mk 0) []
      = (silentSession.run (Task.SilentLink.mk 0) []).take 7 ++ [e] ∧
        isTurn Task.sampleTarget.serial e = true ∧ (seen e).clockAtGate = some 45000000000 :=
    ⟨_, rfl, rfl, rfl⟩
  have hthree : failuresSince (turnsOf Task.sampleTarget.serial
      ((silentSession.run (Task.SilentLink.mk 0) []).take 7)) = 3 := by decide +kernel
  have hauto := cooldown_automaton silentSession (Task.SilentLink.mk 0) [] Task.sampleTarget.serial
    hrun hturn
  have hskipped := hauto.1.mpr ⟨hthree.ge, 45000000000, 45000000000, hnow, by decide +kernel,
    by rw [hthree]; decide⟩
  exact ⟨_, e, hrun, hthree, hskipped, (hauto.2.2.1 hskipped).1⟩

end HassSma
