/-
  Whether a device is shown as available, over all rounds of an inverter task.

  A device has an availability topic of its own, on which `online` and `offline` are published,
  retained.  Three things write to it: a handshake that succeeds puts every target online
  (`announcements`), a connect that fails for the third time with a host-down error marks every device
  offline, once, and the last will of the connection is published by the broker (`crash`).  A session
  publishes values, on other topics (`Task.keeps_pollPhase`).

  The flag that the devices have been marked and the streak of failures are kept on different branches
  of the loop.  `Settled` says how they stand to what has been published, and every round keeps it
  (`settled_round`): a streak of three has set the flag, the flag is set exactly if `offline` is the
  last word on the devices, and nothing was marked twice in a row.  From there on:

  * `availability_consistent`: what holds of the streak, of the handshakes and of the marks;
  * `crash_covers_iff`: the last will is registered for the slot of the inverter entry, so it
    covers the devices exactly if they have that slot.  Behind a repeater they have not
    (`crash_leaves_devices_online`).
-/
import HassSma.Daemon.OwnTurn
import HassSma.Daemon.Reconnect

namespace HassSma

open Fallible History

/-! ## A session publishes values -/

/-- A message to the state topic of some sensor. -/
def IsValue (cfg : MqttClientConfig) (m : Message) : Prop :=
  ∃ identity sensor, sensor ∈ sensorCatalog ∧ m.topic = cfg.stateTopic identity sensor

namespace Task

variable {σ : Type}

/-- Nothing but values is published. -/
def OnlyValues (cfg : MqttClientConfig) (w w' : Task σ) : Prop :=
  ∃ ms, w'.outbox = w.outbox ++ ms ∧ ∀ m ∈ ms, IsValue cfg m

theorem onlyValues_refl {cfg : MqttClientConfig} (w : Task σ) : OnlyValues cfg w w :=
  ⟨[], (List.append_nil _).symm, nofun⟩

theorem onlyValues_trans {cfg : MqttClientConfig} {w w' w'' : Task σ} :
    OnlyValues cfg w w' → OnlyValues cfg w' w'' → OnlyValues cfg w w'' := by
  rintro ⟨ms, h, hms⟩ ⟨ms', h', hms'⟩
  refine ⟨ms ++ ms', by rw [h', h, List.append_assoc], ?_⟩
  intro m hm
  rcases List.mem_append.mp hm with hm | hm
  · exact hms m hm
  · exact hms' m hm

section

-- every step of a session publishes values and nothing else
variable (cfg : InverterCfg)

theorem keeps_then {α β : Type} {x : TaskM σ α} {f : α → TaskM σ β}
    (hx : Keeps (OnlyValues cfg.mqtt) x) (hf : ∀ a, Keeps (OnlyValues cfg.mqtt) (f a)) :
    Keeps (OnlyValues cfg.mqtt) (x >>= f) :=
  Keeps.bind (R := OnlyValues cfg.mqtt) onlyValues_trans hx hf

theorem keeps_value {α : Type} (a : α) : Keeps (OnlyValues cfg.mqtt) (pure a : TaskM σ α) :=
  keeps_pure onlyValues_refl a

theorem keeps_ask {α : Type} (f : σ → α × σ) : Keeps (OnlyValues cfg.mqtt) (ask f : TaskM σ α) :=
  fun w => ⟨[], (List.append_nil w.outbox).symm, nofun⟩

theorem keeps_publishValue (identity : InverterIdentity) (sensorKey : String) (value : Reading) :
    Keeps (OnlyValues cfg.mqtt) (publishValue cfg.mqtt identity sensorKey value : TaskM σ Unit) := by
  intro w
  unfold publishValue MqttClientConfig.publishValue
  cases hfind : sensorCatalog.find? fun s => s.key = sensorKey with
  | none => exact onlyValues_refl w
  | some sensor =>
    refine ⟨[_], rfl, ?_⟩
    intro m hm
    obtain rfl := List.mem_singleton.mp hm
    exact ⟨identity, sensor, List.mem_of_find?_eq_some hfind, rfl⟩

theorem keeps_publishReadings (identity : InverterIdentity)
    (readings : List (String × Option Reading)) :
    Keeps (OnlyValues cfg.mqtt) (publishReadings cfg.mqtt identity readings : TaskM σ Unit) := by
  induction readings with
  | nil => exact keeps_value cfg ()
  | cons r rest ih =>
    obtain ⟨sensorKey, value⟩ := r
    cases value with
    | none => exact ih
    | some value => exact keeps_then cfg (keeps_publishValue cfg identity sensorKey value) fun _ => ih

variable [Link σ]

theorem keeps_eventLogTargets (start stop : UInt32) (targets : List Target) :
    Keeps (OnlyValues cfg.mqtt) (eventLogTargets cfg start stop targets : TaskM σ Unit) := by
  induction targets with
  | nil => exact keeps_value cfg ()
  | cons t ts ih =>
    refine keeps_then cfg (keeps_ask cfg _) fun result => ?_
    cases result with
    | error e => exact ih
    | ok body =>
      simp only
      cases latestEvent (parseEventLogRecords body) with
      | none => exact ih
      | some latest =>
        refine keeps_then cfg (keeps_publishValue cfg _ _ _) fun _ => ?_
        refine keeps_then cfg (keeps_publishValue cfg _ _ _) fun _ => ?_
        exact keeps_then cfg (keeps_publishValue cfg _ _ _) fun _ => ih

theorem keeps_eventLogOneShot (targets : List Target) :
    Keeps (OnlyValues cfg.mqtt) (eventLogOneShot cfg targets : TaskM σ Unit) := by
  unfold eventLogOneShot
  split
  · exact keeps_then cfg (keeps_ask cfg _) fun _ => keeps_eventLogTargets cfg _ _ targets
  · exact keeps_value cfg ()

theorem keeps_identityOneShot (t : Target) :
    Keeps (OnlyValues cfg.mqtt) (identityOneShot cfg t : TaskM σ Target) := by
  refine keeps_then cfg (keeps_ask cfg _) fun _ => ?_
  refine keeps_then cfg (keeps_publishReadings cfg _ _) fun _ => ?_
  refine keeps_then cfg (keeps_publishValue cfg _ _ _) fun _ => ?_
  refine keeps_then cfg (keeps_ask cfg _) fun _ => ?_
  refine keeps_then cfg (keeps_publishReadings cfg _ _) fun _ => ?_
  refine keeps_then cfg (keeps_ask cfg _) fun _ => ?_
  refine keeps_then cfg (keeps_publishReadings cfg _ _) fun _ => ?_
  refine keeps_then cfg (keeps_ask cfg _) fun _ => ?_
  exact keeps_then cfg (keeps_publishReadings cfg _ _) fun _ => keeps_value cfg _

theorem keeps_identityOneShots (targets : List Target) :
    Keeps (OnlyValues cfg.mqtt) (identityOneShots cfg targets : TaskM σ (List Target)) := by
  induction targets with
  | nil => exact keeps_value cfg []
  | cons t ts ih =>
    exact keeps_then cfg (keeps_identityOneShot cfg t) fun _ =>
      keeps_then cfg ih fun _ => keeps_value cfg _

/-- The questions of a turn publish nothing, and what it publishes are values. -/
theorem turnKeeps_onlyValues :
    TurnKeeps cfg.mqtt.publishValue (OnlyValues cfg.mqtt : Task σ → Task σ → Prop) where
  refl := onlyValues_refl
  trans := onlyValues_trans
  query _ _ := keeps_ask cfg _
  instant := keeps_ask cfg _
  utc := keeps_ask cfg _
  publish identity sensorKey value := keeps_publishValue cfg identity sensorKey value

theorem keeps_turn (sessionStart : Int) (t : Target) (st : PollState) :
    Keeps (OnlyValues cfg.mqtt) (turn cfg sessionStart t st : TaskM σ (Option PollState)) := by
  rw [turn_eq, map_eq_pure_bind]
  exact keeps_then cfg ((turnKeeps_onlyValues cfg).ownTurn sessionStart t _) fun _ =>
    keeps_value cfg _

theorem keeps_turns (sessionStart : Int) (targets : List Target) (st : PollState) :
    Keeps (OnlyValues cfg.mqtt) (turns cfg sessionStart targets st : TaskM σ (Option PollState)) := by
  induction targets generalizing st with
  | nil => exact keeps_value cfg _
  | cons t ts ih =>
    refine keeps_then cfg (keeps_turn cfg sessionStart t st) fun next => ?_
    cases next with
    | none => exact keeps_value cfg _
    | some st => exact ih st

theorem keeps_pollLoop (targets : List Target) (sessionStart : Int) (ticks : Nat) (st : PollState) :
    Keeps (OnlyValues cfg.mqtt) (pollLoop cfg targets sessionStart ticks st : TaskM σ LoopEnd) := by
  induction ticks generalizing st with
  | zero => exact keeps_value cfg _
  | succ ticks ih =>
    rw [pollLoop]
    split
    · exact keeps_then cfg (keeps_ask cfg _) fun _ =>
        keeps_then cfg (keeps_ask cfg _) fun _ => keeps_value cfg _
    · refine keeps_then cfg (keeps_turns cfg sessionStart targets _) fun next => ?_
      cases next with
      | none => exact keeps_value cfg _
      | some st => exact ih st

/-- **A session** publishes nothing but values behind its announcements, also if it panics. -/
theorem keeps_pollPhase (targets : List Target) (ticks : Nat) :
    Keeps (OnlyValues cfg.mqtt) (pollPhase cfg targets ticks : TaskM σ LoopEnd) := by
  refine keeps_then cfg (keeps_eventLogOneShot cfg targets) fun _ => ?_
  refine keeps_then cfg (keeps_identityOneShots cfg targets) fun targets => ?_
  refine keeps_then cfg (keeps_ask cfg _) fun sessionStart => ?_
  refine keeps_then cfg (keeps_pollLoop cfg targets sessionStart ticks .new) fun loopEnd => ?_
  refine keeps_then cfg ?_ fun _ => keeps_value cfg _
  unfold endSession
  split
  · exact keeps_value cfg _
  · exact keeps_ask cfg _

end

end Task

/-! ## What the availability topics say -/

/-- What a message says, whatever its topic. -/
structure Notice where
  retained : Bool
  payload : Payload
  deriving DecidableEq

def Message.notice (m : Message) : Notice := ⟨m.retained, m.payload⟩

def online : Notice := ⟨true, .availability "online"⟩
def offline : Notice := ⟨true, .availability "offline"⟩

/-- What has been published about the availability of a device, in order. -/
def availabilityOf (cfg : MqttClientConfig) (inv : InverterIdentity) (ms : List Message) :
    List Notice :=
  (ms.filter fun m => m.topic = cfg.availabilityTopic inv).map Message.notice

/-- No `offline` follows another one without an `online` in between. -/
def Alternating (ps : List Notice) : Prop :=
  ∀ l₁ l₂ l₃, ps = l₁ ++ offline :: (l₂ ++ offline :: l₃) → online ∈ l₂

section

variable (cfg : MqttClientConfig) (inv : InverterIdentity)

@[simp] theorem availabilityOf_append (ms ms' : List Message) :
    availabilityOf cfg inv (ms ++ ms') = availabilityOf cfg inv ms ++ availabilityOf cfg inv ms' := by
  rw [availabilityOf, List.filter_append, List.map_append]
  rfl

theorem availabilityOf_eq_nil {ms : List Message} (h : ∀ m ∈ ms, m.topic ≠ cfg.availabilityTopic inv) :
    availabilityOf cfg inv ms = [] := by
  rw [availabilityOf, List.map_eq_nil_iff, List.filter_eq_nil_iff]
  intro m hm hdec
  exact h m hm (of_decide_eq_true hdec)

theorem availabilityOf_values {ms : List Message} (h : ∀ m ∈ ms, IsValue cfg m) :
    availabilityOf cfg inv ms = [] := by
  apply availabilityOf_eq_nil
  intro m hm
  obtain ⟨identity, sensor, hsensor, htopic⟩ := h m hm
  rw [htopic]
  exact cfg.stateTopic_ne_availabilityTopic identity hsensor inv

theorem availabilityOf_announce (inv' : InverterIdentity) :
    availabilityOf cfg inv (cfg.announce inv') = [] := by
  apply availabilityOf_eq_nil
  intro m hm
  obtain ⟨sensor, -, rfl⟩ := List.mem_map.mp hm
  exact cfg.discoveryTopic_ne_availabilityTopic inv' sensor inv

theorem availabilityOf_single (inv' : InverterIdentity) (retained : Bool) (p : Payload) :
    availabilityOf cfg inv [⟨cfg.availabilityTopic inv', retained, p⟩]
      = if inv'.slot = inv.slot then [⟨retained, p⟩] else [] := by
  rw [availabilityOf, List.filter_cons]
  simp only [cfg.availabilityTopic_inj, decide_eq_true_eq, List.filter_nil]
  split <;> rfl

/-- Marking devices offline: once for each of them in the slot. -/
theorem availabilityOf_offlines (ids : List InverterIdentity) :
    availabilityOf cfg inv (ids.map cfg.publishOffline)
      = List.replicate ((ids.map InverterIdentity.slot).count inv.slot) offline := by
  induction ids with
  | nil => rfl
  | cons id ids ih =>
    rw [List.map_cons, ← List.singleton_append, availabilityOf_append, ih,
      MqttClientConfig.publishOffline, availabilityOf_single, List.map_cons, List.count_cons]
    by_cases hslot : id.slot = inv.slot
    · rw [if_pos hslot, if_pos (beq_iff_eq.mpr hslot), List.replicate_succ]
      rfl
    · rw [if_neg hslot, if_neg fun h => hslot (beq_iff_eq.mp h)]
      rfl

end

/-- What is handed over when targets are announced. -/
def announcements (cfg : MqttClientConfig) (targets : List Target) : List Message :=
  targets.flatMap fun t => cfg.announce t.identity ++ [cfg.publishOnline t.identity]

theorem run_announceTargets {σ : Type} (cfg : InverterCfg) (targets : List Target) (w : Task σ) :
    (Task.announceTargets cfg targets).run w
      = .ok () { w with outbox := w.outbox ++ announcements cfg.mqtt targets } := by
  induction targets generalizing w with
  | nil =>
    rw [announcements, List.flatMap_nil, List.append_nil]
    rfl
  | cons t ts ih =>
    have hstep : (Task.announceTargets cfg (t :: ts)).run w
        = (Task.announceTargets cfg ts).run
          { w with outbox := w.outbox ++ cfg.mqtt.announce t.identity
            ++ [cfg.mqtt.publishOnline t.identity] } := rfl
    rw [hstep, ih, announcements, announcements, List.flatMap_cons]
    simp only [List.append_assoc]

theorem availabilityOf_announcements (cfg : MqttClientConfig) (inv : InverterIdentity)
    (targets : List Target) :
    availabilityOf cfg inv (announcements cfg targets)
      = List.replicate ((targets.map (·.identity.slot)).count inv.slot) online := by
  induction targets with
  | nil => rfl
  | cons t ts ih =>
    rw [announcements, List.flatMap_cons, ← announcements, availabilityOf_append,
      availabilityOf_append, availabilityOf_announce, ih, MqttClientConfig.publishOnline,
      availabilityOf_single, List.map_cons, List.count_cons, List.nil_append]
    by_cases hslot : t.identity.slot = inv.slot
    · rw [if_pos hslot, if_pos (beq_iff_eq.mpr hslot), List.replicate_succ]
      rfl
    · rw [if_neg hslot, if_neg fun h => hslot (beq_iff_eq.mp h)]
      rfl

/-! ### Alternation -/

theorem alternating_nil : Alternating [] := by
  intro l₁ l₂ l₃ h
  exact nomatch (List.append_eq_nil_iff.mp h.symm).2

theorem Alternating.concat {ps : List Notice} (h : Alternating ps)
    (hpair : ∀ p ∈ ps, p = online ∨ p = offline) {p : Notice}
    (hp : p = offline → ps.getLast? ≠ some offline) : Alternating (ps ++ [p]) := by
  intro l₁ l₂ l₃ heq
  rcases List.eq_nil_or_concat l₃ with rfl | ⟨l₃', x, rfl⟩
  · -- the second `offline` is the new one, and what stands before it is not `offline`
    have hsplit : ps ++ [p] = (l₁ ++ offline :: l₂) ++ [offline] := by
      rw [heq, List.append_assoc]
      rfl
    obtain ⟨hps, hlast⟩ := List.append_inj' hsplit rfl
    have hnot := hp (List.singleton_inj.mp hlast)
    rcases List.eq_nil_or_concat l₂ with rfl | ⟨l₂', y, rfl⟩
    · rw [hps] at hnot
      exact absurd List.getLast?_concat hnot
    · have hy : y ∈ ps := by
        rw [hps]
        simp
      rcases hpair y hy with rfl | rfl
      · simp
      · rw [hps, List.concat_eq_append, ← List.cons_append, ← List.append_assoc] at hnot
        exact absurd List.getLast?_concat hnot
  · have hsplit : ps ++ [p] = (l₁ ++ offline :: (l₂ ++ offline :: l₃')) ++ [x] := by
      rw [heq]
      simp
    exact h l₁ l₂ l₃' (List.append_inj' hsplit rfl).1

/-- Any number of `online`s may follow. -/
theorem Alternating.onlines {ps : List Notice} (h : Alternating ps)
    (hpair : ∀ p ∈ ps, p = online ∨ p = offline) (n : Nat) :
    Alternating (ps ++ List.replicate n online) := by
  induction n with
  | zero =>
    rw [List.replicate_zero, List.append_nil]
    exact h
  | succ n ih =>
    rw [List.replicate_succ', ← List.append_assoc]
    refine ih.concat ?_ nofun
    intro p hp
    rcases List.mem_append.mp hp with hp | hp
    · exact hpair p hp
    · exact .inl (List.eq_of_mem_replicate hp)

theorem getLast?_append_replicate {α : Type} (xs : List α) {a : α} {n : Nat} (hn : 0 < n) :
    (xs ++ List.replicate n a).getLast? = some a := by
  obtain ⟨m, rfl⟩ := Nat.exists_eq_add_of_lt hn
  rw [Nat.zero_add, List.replicate_succ', ← List.append_assoc]
  exact List.getLast?_concat

/-! ## The invariant -/

/-- The slots of the devices of a task. -/
def RunCfg.deviceSlots (cfg : RunCfg) : List String :=
  if cfg.devices = [] then [cfg.slot] else cfg.devices.map DeviceCfg.slot

/-- What holds between two rounds. -/
structure Settled (cfg : RunCfg) (s : RunState) : Prop where
  identity_slot : s.identity.slot = cfg.slot
  /-- The right devices would be marked offline. -/
  slots : s.offlineIdentities.map InverterIdentity.slot = cfg.deviceSlots
  /-- A long streak has marked them. -/
  asleep : 3 ≤ s.hostDownStreak → s.publishedOffline = true
  marked : s.publishedOffline = true → ∀ inv, inv.slot ∈ cfg.deviceSlots →
    (availabilityOf cfg.mqtt inv s.outbox).getLast? = some offline
  unmarked : s.publishedOffline = false → ∀ inv,
    (availabilityOf cfg.mqtt inv s.outbox).getLast? ≠ some offline
  foreign : ∀ inv, inv.slot ∉ cfg.deviceSlots → availabilityOf cfg.mqtt inv s.outbox = []
  binary : ∀ inv, ∀ p ∈ availabilityOf cfg.mqtt inv s.outbox, p = online ∨ p = offline
  alternating : cfg.deviceSlots.Nodup → ∀ inv, Alternating (availabilityOf cfg.mqtt inv s.outbox)

/-- What leaves the availability topics and the flag alone keeps the invariant. -/
theorem Settled.of_same {cfg : RunCfg} {s s' : RunState} (h : Settled cfg s)
    (hidentity : s'.identity = s.identity)
    (hoffline : s'.offlineIdentities = s.offlineIdentities)
    (hflag : s'.publishedOffline = s.publishedOffline)
    (hbox : ∀ inv, availabilityOf cfg.mqtt inv s'.outbox = availabilityOf cfg.mqtt inv s.outbox)
    (hasleep : 3 ≤ s'.hostDownStreak → s.publishedOffline = true) : Settled cfg s' where
  identity_slot := by rw [hidentity, h.identity_slot]
  slots := by rw [hoffline, h.slots]
  asleep := by rw [hflag]; exact hasleep
  marked := by simp only [hflag, hbox]; exact h.marked
  unmarked := by simp only [hflag, hbox]; exact h.unmarked
  foreign := by simp only [hbox]; exact h.foreign
  binary := by simp only [hbox]; exact h.binary
  alternating := by simp only [hbox]; exact h.alternating

/-- What says the same of every device, once in each of its slots, keeps it if the flag goes along. -/
theorem Settled.of_notices {cfg : RunCfg} {s s' : RunState} (h : Settled cfg s) {p : Notice}
    (hp : p = online ∨ p = offline) (hidentity : s'.identity.slot = s.identity.slot)
    (hslots : s'.offlineIdentities.map InverterIdentity.slot = cfg.deviceSlots)
    (hflag : s'.publishedOffline = true ↔ p = offline)
    (hasleep : 3 ≤ s'.hostDownStreak → s'.publishedOffline = true)
    (hbox : ∀ inv, availabilityOf cfg.mqtt inv s'.outbox = availabilityOf cfg.mqtt inv s.outbox
      ++ List.replicate (cfg.deviceSlots.count inv.slot) p)
    (halternating : cfg.deviceSlots.Nodup → ∀ inv,
      Alternating (availabilityOf cfg.mqtt inv s'.outbox)) : Settled cfg s' where
  identity_slot := by rw [hidentity, h.identity_slot]
  slots := hslots
  asleep := hasleep
  marked := by
    intro htrue inv hinv
    rw [hbox, getLast?_append_replicate _ (List.count_pos_iff.mpr hinv), hflag.mp htrue]
  unmarked := by
    intro hfalse inv
    have hnot : p ≠ offline := fun heq => Bool.eq_false_iff.mp hfalse (hflag.mpr heq)
    rw [hbox]
    by_cases hinv : inv.slot ∈ cfg.deviceSlots
    · rw [getLast?_append_replicate _ (List.count_pos_iff.mpr hinv)]
      exact fun heq => hnot (Option.some.inj heq)
    · rw [h.foreign inv hinv, List.count_eq_zero.mpr hinv]
      nofun
  foreign := by
    intro inv hinv
    rw [hbox, h.foreign inv hinv, List.count_eq_zero.mpr hinv]
    rfl
  binary := by
    intro inv q hq
    rw [hbox] at hq
    rcases List.mem_append.mp hq with hq | hq
    · exact h.binary inv q hq
    · rw [List.eq_of_mem_replicate hq]
      exact hp
  alternating := halternating

namespace RunState

/-- A host-down failure that is not put down to a yield. -/
def counts (error : String) (now : Nat) (s : RunState) : Bool := isHostDown error && !s.inGrace now

variable {cfg : RunCfg} {s : RunState}

theorem targets_slots (h : Settled cfg s) (initSusy : UInt16) (initSerial : UInt32) :
    (s.targets cfg initSusy initSerial).map (·.identity.slot) = cfg.deviceSlots := by
  rw [targets, InverterCfg.targets, RunCfg.deviceSlots]
  split
  · rw [List.map_singleton, h.identity_slot]
  · rw [List.map_map]
    rfl

theorem offlineIdentities_start (cfg : RunCfg) :
    cfg.start.offlineIdentities.map InverterIdentity.slot = cfg.deviceSlots := by
  rw [offlineIdentities, RunCfg.deviceSlots]
  by_cases hdevices : cfg.devices = []
  · have hannounced : cfg.start.announcedIdentities = [] := by simp [RunCfg.start, hdevices]
    rw [if_pos hannounced, if_pos hdevices]
    rfl
  · have hannounced : cfg.start.announcedIdentities ≠ [] := by simp [RunCfg.start, hdevices]
    rw [if_neg hannounced, if_neg hdevices, RunCfg.start, List.map_map]
    rfl

theorem settled_start (cfg : RunCfg) : Settled cfg cfg.start where
  identity_slot := rfl
  slots := offlineIdentities_start cfg
  asleep := by
    intro hstreak
    exact absurd hstreak (show ¬ (3 : UInt32) ≤ 0 by decide)
  marked := nofun
  unmarked := fun _ _ => nofun
  foreign := fun _ _ => rfl
  binary := fun _ _ h => nomatch h
  alternating := fun _ _ => alternating_nil

/-- **A connect that fails**: the streak goes on if the failure counts, and at three it marks the
    devices offline, unless they are. -/
theorem connectFailed_cases (cfg : RunCfg) (error : String) (now later : Nat) (s : RunState)
    {s' : RunState} (h : (s.connectFailed cfg error now later).2 = s') :
    (s'.identity = s.identity ∧ s'.announcedIdentities = s.announcedIdentities) ∧
      ((s.counts error now = false ∧ s'.hostDownStreak = s.hostDownStreak ∧
          s'.publishedOffline = s.publishedOffline ∧ s'.outbox = s.outbox) ∨
        (s.counts error now = true ∧ s'.hostDownStreak = s.hostDownStreak + 1 ∧
          s'.publishedOffline = s.publishedOffline ∧ s'.outbox = s.outbox ∧
          (s.hostDownStreak + 1 = 3 → s.publishedOffline = true)) ∨
        (s.counts error now = true ∧ s'.hostDownStreak = s.hostDownStreak + 1 ∧
          s.hostDownStreak + 1 = 3 ∧ s.publishedOffline = false ∧ s'.publishedOffline = true ∧
          s'.outbox = s.outbox ++ s.offlineIdentities.map cfg.mqtt.publishOffline)) := by
  subst h
  refine ⟨⟨rfl, rfl⟩, ?_⟩
  have hcount : (isHostDown error && !s.inGrace now) = s.counts error now := rfl
  simp only [connectFailed, hcount]
  cases hcounts : s.counts error now with
  | false => simp
  | true =>
    right
    by_cases hthree : s.hostDownStreak + 1 = 3
    · cases hflag : s.publishedOffline with
      | true => simp [hthree]
      | false => simp [hthree]
    · simp [hthree]

/-- A streak that does not get to three now, but is at three or more, was there before. -/
theorem three_le_of_succ {n : UInt32} (h : 3 ≤ n + 1) (hne : n + 1 ≠ 3) : 3 ≤ n := by
  rw [UInt32.le_iff_toNat_le] at h ⊢
  rw [ne_eq, ← UInt32.toNat_inj] at hne
  rw [UInt32.toNat_add] at h hne
  have hlt := n.toNat_lt
  simp only [UInt32.reduceToNat] at h hne ⊢
  omega

theorem settled_connectFailed (h : Settled cfg s) (error : String) (now later : Nat) :
    Settled cfg (s.connectFailed cfg error now later).2 := by
  generalize hs' : (s.connectFailed cfg error now later).2 = s'
  obtain ⟨⟨hidentity, hannounced⟩, hcases⟩ := connectFailed_cases cfg error now later s hs'
  have hoffline : s'.offlineIdentities = s.offlineIdentities := by
    rw [offlineIdentities, offlineIdentities, hidentity, hannounced]
  rcases hcases with ⟨-, hstreak, hflag, hbox⟩ | ⟨-, hstreak, hflag, hbox, hthree⟩ |
    ⟨-, hstreak, hthree, hnot, hflag, hbox⟩
  · exact h.of_same hidentity hoffline hflag (fun _ => by rw [hbox]) (by rw [hstreak]; exact h.asleep)
  · refine h.of_same hidentity hoffline hflag (fun _ => by rw [hbox]) fun hlong => ?_
    rw [hstreak] at hlong
    by_cases hnow : s.hostDownStreak + 1 = 3
    · exact hthree hnow
    · exact h.asleep (three_le_of_succ hlong hnow)
  · -- every device is marked once
    have havail : ∀ inv, availabilityOf cfg.mqtt inv s'.outbox
        = availabilityOf cfg.mqtt inv s.outbox
          ++ List.replicate (cfg.deviceSlots.count inv.slot) offline := by
      intro inv
      rw [hbox, availabilityOf_append, availabilityOf_offlines, h.slots]
    refine h.of_notices (.inr rfl) (by rw [hidentity]) (by rw [hoffline, h.slots])
      (iff_of_true hflag rfl) (fun _ => hflag) havail ?_
    intro hnodup inv
    rw [havail]
    have hone := List.nodup_iff_count_le_one.mp hnodup inv.slot
    interval_cases cfg.deviceSlots.count inv.slot
    · rw [List.replicate_zero, List.append_nil]
      exact h.alternating hnodup inv
    · exact (h.alternating hnodup inv).concat (h.binary inv) fun _ => h.unmarked hnot inv

theorem settled_connected (h : Settled cfg s) : Settled cfg s.connected :=
  h.of_same rfl rfl rfl (fun _ => rfl) fun hlong => absurd hlong (show ¬ (3 : UInt32) ≤ 0 by decide)

theorem settled_handshakeFailed (h : Settled cfg s) : Settled cfg s.handshakeFailed :=
  h.of_same rfl rfl rfl (fun _ => rfl) h.asleep

variable {σ : Type}

theorem loggedIn_outbox (cfg : RunCfg) (initSusy : UInt16) (initSerial : UInt32) (link : σ)
    (s : RunState) :
    (s.loggedIn cfg initSusy initSerial link).outbox
      = s.outbox ++ announcements cfg.mqtt (s.targets cfg initSusy initSerial) := by
  rw [loggedIn]
  simp only [run_announceTargets]
  rfl

theorem availabilityOf_loggedIn (h : Settled cfg s) (initSusy : UInt16) (initSerial : UInt32)
    (link : σ) (inv : InverterIdentity) :
    availabilityOf cfg.mqtt inv (s.loggedIn cfg initSusy initSerial link).outbox
      = availabilityOf cfg.mqtt inv s.outbox
        ++ List.replicate (cfg.deviceSlots.count inv.slot) online := by
  rw [loggedIn_outbox, availabilityOf_append, availabilityOf_announcements, targets_slots h]

theorem offlineIdentities_loggedIn (h : Settled cfg s) (initSusy : UInt16) (initSerial : UInt32)
    (link : σ) :
    (s.loggedIn cfg initSusy initSerial link).offlineIdentities.map InverterIdentity.slot
      = cfg.deviceSlots := by
  have hslots := h.slots
  by_cases hannounced : s.announcedIdentities = []
  · have hbehind : (s.loggedIn cfg initSusy initSerial link).announcedIdentities
        = (s.targets cfg initSusy initSerial).map Target.identity := if_pos hannounced
    have hsome : (s.targets cfg initSusy initSerial).map Target.identity ≠ [] := by
      rw [ne_eq, List.map_eq_nil_iff]
      exact cfg.targets_ne_nil s.identity initSusy initSerial
    rw [offlineIdentities, if_neg (by rw [hbehind]; exact hsome), hbehind, List.map_map]
    exact targets_slots h initSusy initSerial
  · have hbehind : (s.loggedIn cfg initSusy initSerial link).announcedIdentities
        = s.announcedIdentities := if_neg hannounced
    rw [offlineIdentities, if_neg hannounced] at hslots
    rw [offlineIdentities, if_neg (by rw [hbehind]; exact hannounced), hbehind, hslots]

/-- **A handshake that succeeds** puts every device online. -/
theorem settled_loggedIn (h : Settled cfg s) (hstreak : s.hostDownStreak = 0) (initSusy : UInt16)
    (initSerial : UInt32) (link : σ) : Settled cfg (s.loggedIn cfg initSusy initSerial link) := by
  have havail := availabilityOf_loggedIn h initSusy initSerial link
  refine h.of_notices (.inl rfl) rfl (offlineIdentities_loggedIn h initSusy initSerial link)
    (iff_of_false nofun (by decide)) ?_ havail ?_
  · intro hlong
    change 3 ≤ s.hostDownStreak at hlong
    rw [hstreak] at hlong
    exact absurd hlong (by decide)
  · intro hnodup inv
    rw [havail]
    exact (h.alternating hnodup inv).onlines (h.binary inv) _

variable [Link σ]

/-- **A session** adds values to what the handshake left, and a deadline at most. -/
theorem session_spec (cfg : RunCfg) (initSusy : UInt16) (initSerial : UInt32) (link : σ)
    (ticks yieldedAt : Nat) (s : RunState) :
    ∃ deadline ended ms,
      s.session cfg initSusy initSerial link ticks yieldedAt
        = { s.loggedIn cfg initSusy initSerial link with
            outbox := (s.loggedIn cfg initSusy initSerial link).outbox ++ ms
            postYieldDeadline := deadline
            ended := ended } ∧
        ∀ m ∈ ms, IsValue cfg.mqtt m := by
  obtain ⟨ms, hbox, hms⟩ := Task.keeps_pollPhase cfg.toInverterCfg
    (s.targets cfg initSusy initSerial) ticks ⟨link, (s.loggedIn cfg initSusy initSerial link).outbox⟩
  rw [session]
  simp only [hbox]
  split
  · exact ⟨_, _, ms, rfl, hms⟩
  · exact ⟨_, _, ms, rfl, hms⟩
  · exact ⟨_, _, ms, rfl, hms⟩
  · exact ⟨_, _, ms, rfl, hms⟩

theorem settled_session (h : Settled cfg s) (hstreak : s.hostDownStreak = 0) (initSusy : UInt16)
    (initSerial : UInt32) (link : σ) (ticks yieldedAt : Nat) :
    Settled cfg (s.session cfg initSusy initSerial link ticks yieldedAt) := by
  obtain ⟨deadline, ended, ms, hsession, hms⟩ :=
    session_spec cfg initSusy initSerial link ticks yieldedAt s
  have hin := settled_loggedIn h hstreak initSusy initSerial link
  rw [hsession]
  refine hin.of_same rfl rfl rfl ?_ hin.asleep
  intro inv
  rw [availabilityOf_append, availabilityOf_values cfg.mqtt inv hms, List.append_nil]

/-- **Every round keeps the invariant.** -/
theorem settled_round (h : Settled cfg s) (r : Round σ) : Settled cfg (s.round cfg r).2 := by
  cases hended : s.ended with
  | true =>
    rw [round_ended hended]
    exact h
  | false =>
    cases r with
    | connectFailed error now later =>
      rw [round_connectFailed hended]
      exact settled_connectFailed h error now later
    | handshakeFailed =>
      rw [round_handshakeFailed hended]
      exact settled_handshakeFailed (settled_connected h)
    | session initSusy initSerial link ticks yieldedAt =>
      rw [round_session hended]
      exact settled_session (settled_connected h) rfl initSusy initSerial link ticks yieldedAt

end RunState

/-! ## Over a history -/

section

variable {σ : Type}

/-- Whether the connect of a round succeeds. -/
def Round.connects : Round σ → Bool
  | .connectFailed _ _ _ => false
  | .handshakeFailed => true
  | .session _ _ _ _ _ => true

/-- A round that fails to connect, with a host-down error, outside the post-yield grace. -/
def counted (e : RoundEntry σ) : Bool :=
  match e.call with
  | .connectFailed error now _ => e.before.counts error now
  | .handshakeFailed => false
  | .session _ _ _ _ _ => false

/-- The rounds behind the last connect that succeeded, the latest first. -/
def sinceConnect (past : List (RoundEntry σ)) : List (RoundEntry σ) :=
  past.reverse.takeWhile fun e => !e.call.connects

/-- How many failures have counted since the last connect. -/
def countedFailures (past : List (RoundEntry σ)) : Nat := (sinceConnect past).countP counted

theorem countedFailures_concat (past : List (RoundEntry σ)) (e : RoundEntry σ) :
    countedFailures (past ++ [e])
      = if e.call.connects then 0 else countedFailures past + if counted e then 1 else 0 := by
  rw [countedFailures, sinceConnect, List.reverse_concat, List.takeWhile_cons]
  cases e.call.connects with
  | true => rfl
  | false => simp [countedFailures, sinceConnect, List.countP_cons]

/-- `offline` is published for the device in this round. -/
def Marks (cfg : RunCfg) (inv : InverterIdentity) (e : RoundEntry σ) : Prop :=
  ∃ ms, e.after.outbox = e.before.outbox ++ ms ∧ offline ∈ availabilityOf cfg.mqtt inv ms

variable [Link σ]

/-- The streak is the number of failures that have counted, as the counter has it. -/
def Streak (past : List (RoundEntry σ)) (s : RunState) : Prop :=
  s.ended = false → s.hostDownStreak = UInt32.ofNat (countedFailures past)

theorem streak_round (cfg : RunCfg) (past : List (RoundEntry σ)) (r : Round σ) (s : RunState)
    (h : Streak past s) :
    Streak (past ++ [entry (RunState.round cfg) r s]) (entry (RunState.round cfg) r s).after := by
  intro hafter
  rw [countedFailures_concat]
  cases hended : s.ended with
  | true =>
    rw [entry, RunState.round_ended hended] at hafter
    exact absurd (hended.symm.trans hafter) (by decide)
  | false =>
    have hbefore := h hended
    cases r with
    | handshakeFailed =>
      rw [entry, RunState.round_handshakeFailed hended]
      rfl
    | session initSusy initSerial link ticks yieldedAt =>
      obtain ⟨deadline, ended, ms, hsession, -⟩ :=
        RunState.session_spec cfg initSusy initSerial link ticks yieldedAt s.connected
      rw [entry, RunState.round_session hended, hsession]
      rfl
    | connectFailed error now later =>
      obtain ⟨-, hcases⟩ := RunState.connectFailed_cases cfg error now later s rfl
      have hcounted :
          counted (entry (RunState.round cfg) (.connectFailed error now later : Round σ) s)
            = s.counts error now := rfl
      rw [hcounted, if_neg (by exact Bool.false_ne_true)]
      rw [entry, RunState.round_connectFailed hended]
      rcases hcases with ⟨hcounts, hstreak, -⟩ | ⟨hcounts, hstreak, -⟩ | ⟨hcounts, hstreak, -⟩
      · rw [hstreak, hbefore, hcounts]
        rfl
      · rw [hstreak, hbefore, hcounts, if_pos rfl, UInt32.ofNat_add]
        rfl
      · rw [hstreak, hbefore, hcounts, if_pos rfl, UInt32.ofNat_add]
        rfl

/-- **Only a third failure marks a device.** -/
theorem marks_cases {cfg : RunCfg} {e : RoundEntry σ}
    (he : e = entry (RunState.round cfg) e.call e.before)
    (hsettled : Settled cfg e.before) {inv : InverterIdentity} (h : Marks cfg inv e) :
    e.before.ended = false ∧ ∃ error now later, e.call = .connectFailed error now later ∧
      e.before.counts error now = true ∧ e.before.hostDownStreak + 1 = 3 := by
  obtain ⟨ms, hbox, hoffline⟩ := h
  have hsame : ¬ e.before.outbox = e.before.outbox ++ ms := by
    intro hsame
    rw [List.self_eq_append_right.mp hsame] at hoffline
    nomatch hoffline
  have hafter := congrArg Entry.after he
  simp only [entry] at hafter
  rw [hafter] at hbox
  cases hended : e.before.ended with
  | true =>
    rw [RunState.round_ended hended] at hbox
    exact absurd hbox hsame
  | false =>
    refine ⟨rfl, ?_⟩
    cases hcall : e.call with
    | connectFailed error now later =>
      rw [hcall, RunState.round_connectFailed hended] at hbox
      obtain ⟨-, hcases⟩ := RunState.connectFailed_cases cfg error now later e.before rfl
      rcases hcases with ⟨-, -, -, hout⟩ | ⟨-, -, -, hout, -⟩ | ⟨hcounts, -, hthree, -, -, -⟩
      · exact absurd (hout.symm.trans hbox) hsame
      · exact absurd (hout.symm.trans hbox) hsame
      · exact ⟨error, now, later, rfl, hcounts, hthree⟩
    | handshakeFailed =>
      rw [hcall, RunState.round_handshakeFailed hended, RunState.handshakeFailed_outbox,
        RunState.connected_outbox] at hbox
      exact absurd hbox hsame
    | session initSusy initSerial link ticks yieldedAt =>
      -- what is published is online, and values
      obtain ⟨deadline, ended, vs, hsession, hvs⟩ :=
        RunState.session_spec cfg initSusy initSerial link ticks yieldedAt e.before.connected
      rw [hcall, RunState.round_session hended, hsession] at hbox
      have havail := congrArg (availabilityOf cfg.mqtt inv) hbox
      simp only [availabilityOf_append, availabilityOf_values cfg.mqtt inv hvs,
        RunState.availabilityOf_loggedIn (RunState.settled_connected hsettled),
        List.append_nil] at havail
      rw [← List.append_cancel_left havail] at hoffline
      exact absurd (List.eq_of_mem_replicate hoffline) (by decide)

/-- Between two rounds. -/
theorem settled_before {cfg : RunCfg} {rounds : List (Round σ)} {past future : List (RoundEntry σ)}
    {e : RoundEntry σ} (h : runInverter cfg rounds = past ++ e :: future) :
    Settled cfg e.before ∧ Streak past e.before := by
  refine history_before (I := fun past s => Settled cfg s ∧ Streak past s) ?_ ?_ h
  · rintro past r s ⟨hs, hstreak⟩
    exact ⟨RunState.settled_round hs r, streak_round cfg past r s hstreak⟩
  · exact ⟨RunState.settled_start cfg, fun _ => rfl⟩

theorem settled_after {cfg : RunCfg} {rounds : List (Round σ)} {e : RoundEntry σ}
    (h : e ∈ runInverter cfg rounds) : Settled cfg e.after := by
  obtain ⟨past, future, hsplit⟩ := List.append_of_mem h
  rw [eq_entry_of_mem h]
  exact RunState.settled_round (settled_before hsplit).1 e.call

/-- **Availability is consistent** over all rounds of a task whose devices have slots of their own.
    With a streak of three the last word on every device is offline; behind a handshake it is online
    for every target; nothing is marked offline twice in a row; and a device is marked offline only
    behind three failures that count, since the last connect. -/
theorem availability_consistent (cfg : RunCfg) (hslots : cfg.deviceSlots.Nodup)
    (rounds : List (Round σ)) :
    (∀ e ∈ runInverter cfg rounds, 3 ≤ e.after.hostDownStreak →
        ∀ inv : InverterIdentity, inv.slot ∈ cfg.deviceSlots →
          (availabilityOf cfg.mqtt inv e.after.outbox).getLast? = some offline) ∧
      (∀ e ∈ runInverter cfg rounds, e.before.ended = false →
        ∀ initSusy initSerial link ticks yieldedAt,
          e.call = .session initSusy initSerial link ticks yieldedAt →
          ∀ t ∈ e.before.targets cfg initSusy initSerial,
            (availabilityOf cfg.mqtt t.identity
              (e.before.connected.loggedIn cfg initSusy initSerial link).outbox).getLast?
                = some online) ∧
      (∀ e ∈ runInverter cfg rounds, ∀ inv, Alternating (availabilityOf cfg.mqtt inv e.after.outbox)) ∧
      ∀ past e future, runInverter cfg rounds = past ++ e :: future →
        ∀ inv, Marks cfg inv e → 3 ≤ countedFailures (past ++ [e]) := by
  refine ⟨?_, ?_, ?_, ?_⟩
  · intro e he hstreak inv hinv
    have hsettled := settled_after he
    exact hsettled.marked (hsettled.asleep hstreak) inv hinv
  · intro e he _ initSusy initSerial link ticks yieldedAt _ t ht
    obtain ⟨past, future, hsplit⟩ := List.append_of_mem he
    have hin := RunState.settled_connected (settled_before hsplit).1
    rw [RunState.availabilityOf_loggedIn hin]
    apply getLast?_append_replicate
    rw [List.count_pos_iff, ← RunState.targets_slots hin initSusy initSerial]
    exact List.mem_map_of_mem ht
  · intro e he inv
    exact (settled_after he).alternating hslots inv
  · intro past e future hsplit inv hmarks
    obtain ⟨hsettled, hstreak⟩ := settled_before hsplit
    have he : e ∈ runInverter cfg rounds := by
      rw [hsplit]
      simp
    obtain ⟨hended, error, now, later, hcall, hcounts, hthree⟩ :=
      marks_cases (eq_entry_of_mem he) hsettled hmarks
    have hcounted : counted e = true := by
      rw [counted, hcall]
      exact hcounts
    have hconnects : e.call.connects = false := by
      rw [hcall]
      rfl
    rw [countedFailures_concat, hconnects, hcounted, hstreak hended] at *
    have hnat := congrArg UInt32.toNat hthree
    rw [UInt32.toNat_add, UInt32.toNat_ofNat'] at hnat
    simp at hnat ⊢
    omega

/-- Two devices behind a repeater, whose own slot is a label. -/
def repeaterCfg : RunCfg where
  devices := [⟨"zolder", 2120121246, "SB 3000HF-30"⟩, ⟨"garage", 2120121383, "SB 2000HF-30"⟩]
  yieldEvery := 0
  eventLogEnabled := false
  mqtt := ⟨"homeassistant", "hass-sma"⟩
  slot := "repeater"
  model := "unknown"
  firmware := "unknown"

/-- Both inverters are asleep: after three connects they are shown as unavailable. -/
theorem availability_consistent_asleep :
    ∃ e ∈ runInverter (σ := Task.SilentLink) repeaterCfg
        (List.replicate 3 (.connectFailed "Host is down (os error 112)" 0 0)),
      e.after.hostDownStreak = 3 ∧ ∀ slot ∈ ["zolder", "garage"],
        (availabilityOf repeaterCfg.mqtt ⟨slot, 0, "", ""⟩ e.after.outbox).getLast?
          = some offline := by
  let failed : Round Task.SilentLink := .connectFailed "Host is down (os error 112)" 0 0
  let s₁ := (repeaterCfg.start.round repeaterCfg failed).2
  let s₂ := (s₁.round repeaterCfg failed).2
  have hmem : entry (RunState.round repeaterCfg) failed s₂
      ∈ runInverter repeaterCfg (List.replicate 3 failed) :=
    List.mem_cons_of_mem _ (List.mem_cons_of_mem _ (List.mem_singleton.mpr rfl))
  have hstreak : (s₂.round repeaterCfg failed).2.hostDownStreak = 3 := by decide
  refine ⟨_, hmem, hstreak, fun slot hslot => ?_⟩
  have hlong : 3 ≤ (s₂.round repeaterCfg failed).2.hostDownStreak := UInt32.le_of_eq hstreak.symm
  exact (availability_consistent repeaterCfg (by decide) _).1 _ hmem hlong _ hslot

/-! ## A crash -/

/-- The last will is registered for the slot of the inverter entry. -/
def lastWill (cfg : RunCfg) : Message where
  topic := cfg.mqtt.statePrefix ++ "/" ++ cfg.slot ++ "/availability"
  retained := true
  payload := .availability "offline"

/-- What the broker has got when the connection is lost: it publishes the last will. -/
def crash (cfg : RunCfg) (ms : List Message) : List Message := ms ++ [lastWill cfg]

/-- The value retained on a topic. -/
def retainedOn (topic : String) (ms : List Message) : Option Payload :=
  ((ms.filter fun m => m.topic = topic ∧ m.retained = true).map Message.payload).getLast?

/-- Every device of the task is shown as unavailable. -/
def AllOffline (cfg : RunCfg) (ms : List Message) : Prop :=
  ∀ inv : InverterIdentity, inv.slot ∈ cfg.deviceSlots →
    retainedOn (cfg.mqtt.availabilityTopic inv) ms = some (.availability "offline")

omit [Link σ] in
/-- Where everything about a device is retained, its last notice is the value on its topic. -/
theorem retainedOn_availability {cfg : RunCfg} {inv : InverterIdentity} {ms : List Message}
    (h : ∀ n ∈ availabilityOf cfg.mqtt inv ms, n = online ∨ n = offline) :
    retainedOn (cfg.mqtt.availabilityTopic inv) ms
      = (availabilityOf cfg.mqtt inv ms).getLast?.map Notice.payload := by
  have hretained : (ms.filter fun m => m.topic = cfg.mqtt.availabilityTopic inv ∧ m.retained = true)
      = ms.filter fun m => m.topic = cfg.mqtt.availabilityTopic inv := by
    apply List.filter_congr
    intro m hm
    by_cases htopic : m.topic = cfg.mqtt.availabilityTopic inv
    · have hmem : m.notice ∈ availabilityOf cfg.mqtt inv ms :=
        List.mem_map_of_mem (List.mem_filter.mpr ⟨hm, decide_eq_true htopic⟩)
      have hnotice : m.notice.retained = true := by
        rcases h m.notice hmem with heq | heq
        · rw [heq]
          rfl
        · rw [heq]
          rfl
      have hm' : m.retained = true := hnotice
      simp [htopic, hm']
    · simp [htopic]
  rw [retainedOn, hretained, availabilityOf, ← List.getLast?_map, List.map_map]
  rfl

theorem availabilityOf_crash (cfg : RunCfg) (inv : InverterIdentity) (ms : List Message) :
    availabilityOf cfg.mqtt inv (crash cfg ms)
      = availabilityOf cfg.mqtt inv ms ++ if cfg.slot = inv.slot then [offline] else [] := by
  rw [crash, availabilityOf_append]
  exact congrArg _ (availabilityOf_single cfg.mqtt inv ⟨cfg.slot, 0, cfg.model, cfg.firmware⟩ true _)

/-- **After a crash** a device is shown as unavailable if the last will is for it, or it was marked
    offline already. -/
theorem allOffline_crash_iff {cfg : RunCfg} {ms : List Message}
    (h : ∀ inv, ∀ n ∈ availabilityOf cfg.mqtt inv ms, n = online ∨ n = offline) :
    AllOffline cfg (crash cfg ms) ↔ ∀ inv : InverterIdentity, inv.slot ∈ cfg.deviceSlots →
      inv.slot = cfg.slot ∨ (availabilityOf cfg.mqtt inv ms).getLast? = some offline := by
  refine forall₂_congr fun inv _ => ?_
  have hcrash : ∀ n ∈ availabilityOf cfg.mqtt inv (crash cfg ms), n = online ∨ n = offline := by
    intro n hn
    rw [availabilityOf_crash] at hn
    rcases List.mem_append.mp hn with hn | hn
    · exact h inv n hn
    · split at hn
      · exact .inr (List.mem_singleton.mp hn)
      · nomatch hn
  rw [retainedOn_availability hcrash, availabilityOf_crash]
  by_cases hslot : cfg.slot = inv.slot
  · rw [if_pos hslot, List.getLast?_concat]
    exact iff_of_true rfl (.inl hslot.symm)
  · rw [if_neg hslot, List.append_nil]
    refine Iff.trans ?_ (or_iff_right fun heq => hslot heq.symm).symm
    cases hlast : (availabilityOf cfg.mqtt inv ms).getLast? with
    | none => exact iff_of_false nofun nofun
    | some n =>
      rcases h inv n (List.mem_of_getLast? hlast) with rfl | rfl
      · decide
      · decide

/-- Between two rounds. -/
theorem allOffline_settled_iff {cfg : RunCfg} {s : RunState} (h : Settled cfg s) :
    AllOffline cfg (crash cfg s.outbox) ↔
      (∀ slot ∈ cfg.deviceSlots, slot = cfg.slot) ∨ s.publishedOffline = true := by
  rw [allOffline_crash_iff h.binary]
  cases hflag : s.publishedOffline with
  | true => exact iff_of_true (fun inv hinv => .inr (h.marked hflag inv hinv)) (.inr rfl)
  | false =>
    constructor
    · intro hall
      left
      intro slot hslot
      rcases hall ⟨slot, 0, cfg.model, cfg.firmware⟩ hslot with heq | hlast
      · exact heq
      · exact absurd hlast (h.unmarked hflag _)
    · rintro (hall | hfalse)
      · exact fun inv hinv => .inl (hall inv.slot hinv)
      · nomatch hfalse

/-- **The last will covers a task's devices** when all of them have the slot of the inverter entry;
    other devices are left online, unless they were marked offline before. -/
theorem crash_covers_iff (cfg : RunCfg) (rounds : List (Round σ)) {e : RoundEntry σ}
    (he : e ∈ runInverter cfg rounds) :
    (AllOffline cfg (crash cfg e.after.outbox) ↔
        (∀ slot ∈ cfg.deviceSlots, slot = cfg.slot) ∨ e.after.publishedOffline = true) ∧
      ∀ initSusy initSerial link ticks yieldedAt, e.before.ended = false →
        e.call = .session initSusy initSerial link ticks yieldedAt →
        ∀ ms, (e.before.connected.loggedIn cfg initSusy initSerial link).outbox <+: ms →
          ms <+: e.after.outbox →
          (AllOffline cfg (crash cfg ms) ↔ ∀ slot ∈ cfg.deviceSlots, slot = cfg.slot) := by
  refine ⟨allOffline_settled_iff (settled_after he), ?_⟩
  rintro initSusy initSerial link ticks yieldedAt hended hcall ms ⟨vs, rfl⟩ hprefix
  obtain ⟨past, future, hsplit⟩ := List.append_of_mem he
  have hin := RunState.settled_loggedIn (RunState.settled_connected (settled_before hsplit).1) rfl
    initSusy initSerial link
  have hafter : e.after = (e.before.round cfg e.call).2 := by
    conv_lhs => rw [eq_entry_of_mem he]
    rfl
  obtain ⟨deadline, ended, vs', hsession, hvalues⟩ :=
    RunState.session_spec cfg initSusy initSerial link ticks yieldedAt e.before.connected
  rw [hafter, hcall, RunState.round_session hended, hsession] at hprefix
  have hvs : vs <+: vs' := (List.prefix_append_right_inj _).mp hprefix
  have hsame : ∀ inv, availabilityOf cfg.mqtt inv
      ((e.before.connected.loggedIn cfg initSusy initSerial link).outbox ++ vs)
      = availabilityOf cfg.mqtt inv
        (e.before.connected.loggedIn cfg initSusy initSerial link).outbox := by
    intro inv
    rw [availabilityOf_append,
      availabilityOf_values cfg.mqtt inv fun m hm => hvalues m (hvs.mem hm), List.append_nil]
  have hiff := allOffline_settled_iff hin
  rw [allOffline_crash_iff hin.binary] at hiff
  rw [allOffline_crash_iff (by simp only [hsame]; exact hin.binary)]
  simp only [hsame]
  exact hiff.trans (or_iff_left (by exact Bool.false_ne_true))

end

/-- The connection is lost behind a handshake: the devices stay online. -/
theorem crash_leaves_devices_online :
    ¬ ∀ (cfg : RunCfg) (rounds : List (Round Task.SilentLink)) (e : RoundEntry Task.SilentLink),
      e ∈ runInverter cfg rounds → e.before.ended = false → e.call.connects = true →
        e.call ≠ .handshakeFailed → AllOffline cfg (crash cfg e.after.outbox) := by
  intro hall
  let r : Round Task.SilentLink := .session 110 2120121246 ⟨0⟩ 0 0
  have hoffline := hall repeaterCfg [r] (entry (RunState.round repeaterCfg) r repeaterCfg.start)
    (List.mem_singleton.mpr rfl) rfl rfl nofun
  have hsettled : Settled repeaterCfg (repeaterCfg.start.round repeaterCfg r).2 :=
    RunState.settled_round (RunState.settled_start repeaterCfg) r
  rcases (allOffline_settled_iff hsettled).mp hoffline with hslots | hflag
  · exact absurd (hslots "zolder" (by decide)) (by decide)
  · obtain ⟨deadline, ended, ms, hsession, -⟩ := RunState.session_spec repeaterCfg 110 2120121246
      (Task.SilentLink.mk 0) 0 0 repeaterCfg.start.connected
    rw [RunState.round_session rfl, hsession] at hflag
    nomatch hflag

/-- A task with one inverter of its own. -/
theorem crash_covers_iff_single :
    AllOffline ⟨Task.sampleCfg, "zolder", "SB 3000HF-30", ""⟩
      (crash ⟨Task.sampleCfg, "zolder", "SB 3000HF-30", ""⟩
        (RunState.round ⟨Task.sampleCfg, "zolder", "SB 3000HF-30", ""⟩
          (.session 110 2120121246 (Task.SilentLink.mk 0) 0 0 : Round Task.SilentLink)
          (RunCfg.start ⟨Task.sampleCfg, "zolder", "SB 3000HF-30", ""⟩)).2.outbox) :=
  (crash_covers_iff _ [.session 110 2120121246 (Task.SilentLink.mk 0) 0 0]
    (List.mem_singleton.mpr rfl)).1.mpr (.inl (by decide))

end HassSma
