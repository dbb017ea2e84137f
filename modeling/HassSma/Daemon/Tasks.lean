/-
  All inverter tasks of the daemon (`main` in `daemon/src/main.rs`).

  `main` starts one task for each entry of `inverters`, each with an MQTT connection of its own: its
  client id and the topic of its last will are made from the entry's slot, and everything else of the
  connection is shared.  So the broker sees one stream, in which the tasks' messages are interleaved
  in any way, and a last will wherever a connection is lost.

  1. **Topics have owners** — `Owned`: a task writes to topics of its own slots only
     (`owned_run`), and a topic tells its slot (`Owned.slot_of_config` and its likes).
  2. **Isolation** — so what is retained on a device's topics is what its own task has left there
     (`retainedOn_own`), whatever the others do.
  3. **The whole daemon** — with slots that are not shared, every value in the broker's stream is shown
     when it comes, and the loss of one connection is the business of its task
     (`tasks_do_not_interfere`).
-/
import HassSma.Daemon.Announced
import HassSma.Lib.Interleave

namespace HassSma

open Fallible History

/-! ## The program -/

/-- An entry of `inverters`, as far as a task reads it. -/
structure InverterEntry where
  slot : String
  model : String
  firmware : String
  devices : List DeviceCfg
  yieldEvery : UInt32
  eventLogEnabled : Bool

/-- What `main` reads of the daemon's config to set up the tasks. -/
structure DaemonCfg where
  mqtt : MqttClientConfig
  clientId : String
  inverters : List InverterEntry

namespace DaemonCfg

variable (c : DaemonCfg)

/-- The config of the task of an entry. -/
def task (inv : InverterEntry) : RunCfg where
  devices := inv.devices
  yieldEvery := inv.yieldEvery
  eventLogEnabled := inv.eventLogEnabled
  mqtt := c.mqtt
  slot := inv.slot
  model := inv.model
  firmware := inv.firmware

/-- `format!("{}-{}", mqtt_base.client_id, inv.slot)` -/
def taskClientId (inv : InverterEntry) : String := c.clientId ++ "-" ++ inv.slot

/-- `format!("{}/{}/availability", pub_cfg.state_prefix, inv.slot)` -/
def lwtTopic (inv : InverterEntry) : String :=
  c.mqtt.statePrefix ++ "/" ++ inv.slot ++ "/availability"

theorem lastWill_topic (inv : InverterEntry) : (lastWill (c.task inv)).topic = c.lwtTopic inv := rfl

/-- Two connections have the same client id exactly if their entries have the same slot. -/
theorem taskClientId_inj {inv inv' : InverterEntry} :
    c.taskClientId inv = c.taskClientId inv' ↔ inv.slot = inv'.slot := by
  rw [taskClientId, taskClientId, String.append_right_inj]

end DaemonCfg

/-- The slots of an entry: its own and those of its devices. -/
def RunCfg.slots (cfg : RunCfg) : List String := cfg.slot :: cfg.deviceSlots

/-! ## Topics have owners -/

/-- A message on a topic of one of the slots. -/
inductive Owned (cfg : MqttClientConfig) (slots : List String) (m : Message) : Prop where
  | config {inv : InverterIdentity} {sensor : SensorConfig} (hslot : inv.slot ∈ slots)
      (hsensor : sensor ∈ sensorCatalog) (htopic : m.topic = cfg.discoveryTopic inv sensor)
  | availability {inv : InverterIdentity} (hslot : inv.slot ∈ slots)
      (htopic : m.topic = cfg.availabilityTopic inv)
  | value {inv : InverterIdentity} {sensor : SensorConfig} (hslot : inv.slot ∈ slots)
      (hsensor : sensor ∈ sensorCatalog) (htopic : m.topic = cfg.stateTopic inv sensor)

section

variable {cfg : MqttClientConfig} {slots : List String} {m : Message} {inv : InverterIdentity}

/-- A value never goes to a discovery topic. -/
theorem stateTopic_ne_discoveryTopic {sensor : SensorConfig} (hsensor : sensor ∈ sensorCatalog)
    (inv' : InverterIdentity) (sensor' : SensorConfig) :
    cfg.stateTopic inv sensor ≠ cfg.discoveryTopic inv' sensor' := by
  intro heq
  have hleaf := congrArg topicLeaf heq
  rw [cfg.topicLeaf_stateTopic inv hsensor, cfg.topicLeaf_discoveryTopic] at hleaf
  exact (MqttClientConfig.sensorKeys_leaf _ (List.mem_map_of_mem hsensor)).2.2 hleaf

/-- The slot of a discovery topic is one of its writer's. -/
theorem Owned.slot_of_config (h : Owned cfg slots m) {sensor : SensorConfig}
    (hsensor : sensor ∈ sensorCatalog) (htopic : m.topic = cfg.discoveryTopic inv sensor) :
    inv.slot ∈ slots := by
  cases h with
  | config hslot hs ht =>
    obtain ⟨heq, -⟩ := (discoveryTopic_inj hsensor hs).mp (htopic.symm.trans ht)
    rw [heq]
    exact hslot
  | availability hslot ht =>
    exact absurd (htopic.symm.trans ht) (cfg.discoveryTopic_ne_availabilityTopic _ _ _)
  | value hslot hs ht =>
    exact absurd (ht.symm.trans htopic) (stateTopic_ne_discoveryTopic hs _ _)

/-- And of an availability topic. -/
theorem Owned.slot_of_availability (h : Owned cfg slots m)
    (htopic : m.topic = cfg.availabilityTopic inv) : inv.slot ∈ slots := by
  cases h with
  | config hslot hs ht =>
    exact absurd (ht.symm.trans htopic) (cfg.discoveryTopic_ne_availabilityTopic _ _ _)
  | availability hslot ht =>
    rw [cfg.availabilityTopic_inj.mp (htopic.symm.trans ht)]
    exact hslot
  | value hslot hs ht =>
    exact absurd (ht.symm.trans htopic) (cfg.stateTopic_ne_availabilityTopic _ hs _)

/-- And of a state topic. -/
theorem Owned.slot_of_value (h : Owned cfg slots m) {sensor : SensorConfig}
    (hsensor : sensor ∈ sensorCatalog) (htopic : m.topic = cfg.stateTopic inv sensor) :
    inv.slot ∈ slots := by
  cases h with
  | config hslot hs ht =>
    exact absurd (htopic.symm.trans ht) (stateTopic_ne_discoveryTopic hsensor _ _)
  | availability hslot ht =>
    exact absurd (htopic.symm.trans ht) (cfg.stateTopic_ne_availabilityTopic _ hsensor _)
  | value hslot hs ht =>
    obtain ⟨heq, -⟩ := (cfg.stateTopic_inj hsensor hs).mp (htopic.symm.trans ht)
    rw [heq]
    exact hslot

end

/-! ### A task owns what it writes -/

section

variable {σ : Type} [Link σ] {cfg : RunCfg} {s : RunState}

theorem owned_announcements (hs : Settled cfg s) (initSusy : UInt16) (initSerial : UInt32) :
    ∀ m ∈ announcements cfg.mqtt (s.targets cfg initSusy initSerial),
      Owned cfg.mqtt cfg.slots m := by
  intro m hm
  have hslots := RunState.targets_slots hs initSusy initSerial
  obtain ⟨t, ht, hcases⟩ := mem_announcements.mp hm
  have hslot : t.identity.slot ∈ cfg.slots :=
    List.mem_cons_of_mem _ (hslots ▸ List.mem_map_of_mem ht)
  rcases hcases with ⟨sensor, hsensor, rfl⟩ | rfl
  · exact .config hslot hsensor rfl
  · exact .availability hslot rfl

theorem owned_session (hs : Settled cfg s) (h : ∀ m ∈ s.outbox, Owned cfg.mqtt cfg.slots m)
    (initSusy : UInt16) (initSerial : UInt32) (link : σ) (ticks yieldedAt : Nat) :
    ∀ m ∈ (s.session cfg initSusy initSerial link ticks yieldedAt).outbox,
      Owned cfg.mqtt cfg.slots m := by
  obtain ⟨ms, hbox, hms⟩ := session_values cfg s initSusy initSerial link ticks yieldedAt
  rw [hbox, RunState.loggedIn_outbox]
  intro m hm
  rcases List.mem_append.mp hm with hm | hm
  · rcases List.mem_append.mp hm with hm | hm
    · exact h m hm
    · exact owned_announcements hs initSusy initSerial m hm
  · have hslots := RunState.targets_slots hs initSusy initSerial
    obtain ⟨t, ht, sensor, hsensor, r, rfl, -⟩ := hms m hm
    exact .value (List.mem_cons_of_mem _ (hslots ▸ List.mem_map_of_mem ht)) hsensor rfl

theorem owned_round (hs : Settled cfg s) (h : ∀ m ∈ s.outbox, Owned cfg.mqtt cfg.slots m)
    (r : Round σ) : ∀ m ∈ (s.round cfg r).2.outbox, Owned cfg.mqtt cfg.slots m := by
  cases hended : s.ended with
  | true =>
    rw [RunState.round_ended hended]
    exact h
  | false =>
    cases r with
    | connectFailed error now later =>
      rw [RunState.round_connectFailed hended]
      obtain ⟨-, ⟨-, -, -, hbox⟩ | ⟨-, -, -, hbox, -⟩ | ⟨-, -, -, -, -, hbox⟩⟩ :=
        RunState.connectFailed_cases cfg error now later s rfl
      · rw [hbox]
        exact h
      · rw [hbox]
        exact h
      · rw [hbox]
        intro m hm
        rcases List.mem_append.mp hm with hm | hm
        · exact h m hm
        · obtain ⟨inv, hinv, rfl⟩ := List.mem_map.mp hm
          have hslot : inv.slot ∈ cfg.deviceSlots := hs.slots ▸ List.mem_map_of_mem hinv
          exact .availability (List.mem_cons_of_mem _ hslot) rfl
    | handshakeFailed =>
      rw [RunState.round_handshakeFailed hended, RunState.handshakeFailed_outbox,
        RunState.connected_outbox]
      exact h
    | session initSusy initSerial link ticks yieldedAt =>
      rw [RunState.round_session hended]
      refine owned_session (RunState.settled_connected hs) ?_ initSusy initSerial link ticks yieldedAt
      rw [RunState.connected_outbox]
      exact h

/-- **A task writes to its own topics.** -/
theorem owned_run (cfg : RunCfg) (rounds : List (Round σ)) :
    ∀ m ∈ (behind cfg.start (runInverter cfg rounds)).outbox, Owned cfg.mqtt cfg.slots m := by
  have hrun : Settled cfg (behind cfg.start (runInverter cfg rounds)) ∧
      ∀ m ∈ (behind cfg.start (runInverter cfg rounds)).outbox, Owned cfg.mqtt cfg.slots m :=
    history_behind (I := fun _ (s : RunState) => Settled cfg s ∧ ∀ m ∈ s.outbox, Owned cfg.mqtt cfg.slots m)
      (fun _ r _ h => ⟨RunState.settled_round h.1 r, owned_round h.1 h.2 r⟩)
      ⟨RunState.settled_start cfg, nofun⟩
  exact hrun.2

end

/-! ## The broker's stream -/

/-- What the broker gets of a task until it loses it: a part of what the task has handed over, from the
    front, and behind it the last will if the connection is lost. -/
def Arrives {σ : Type} [Link σ] (cfg : RunCfg) (ms : List Message) : Prop :=
  ∃ (rounds : List (Round σ)) (front : List Message),
    front <+: (behind cfg.start (runInverter cfg rounds)).outbox ∧
      (ms = front ∨ ms = crash cfg front)

/-- What the broker gets of all tasks, in the order in which it gets it, each message with the entry of
    the task it is from. -/
structure Broadcast (σ : Type) [Link σ] (c : DaemonCfg) where
  trace : List (Fin c.inverters.length × Message)
  arrives : ∀ i, Arrives (σ := σ) (c.task c.inverters[i]) (Interleave.of i trace)

/-- No slot is used by two entries. -/
def DaemonCfg.SlotsApart (c : DaemonCfg) : Prop :=
  ∀ i j : Fin c.inverters.length, i ≠ j →
    ∀ slot ∈ (c.task c.inverters[i]).slots, slot ∉ (c.task c.inverters[j]).slots

section

variable {σ : Type} [Link σ] {cfg : RunCfg} {ms : List Message}

theorem Arrives.owned (h : Arrives (σ := σ) cfg ms) : ∀ m ∈ ms, Owned cfg.mqtt cfg.slots m := by
  obtain ⟨rounds, front, hfront, hms⟩ := h
  have htold : ∀ m ∈ front, Owned cfg.mqtt cfg.slots m := fun m hm =>
    owned_run cfg rounds m (hfront.mem hm)
  rcases hms with rfl | rfl
  · exact htold
  · intro m hm
    rcases List.mem_append.mp hm with hm | hm
    · exact htold m hm
    · obtain rfl := List.mem_singleton.mp hm
      have hslot : (⟨cfg.slot, 0, cfg.model, cfg.firmware⟩ : InverterIdentity).slot ∈ cfg.slots :=
        List.mem_cons_self
      exact .availability hslot rfl

theorem Arrives.wellTold (h : Arrives (σ := σ) cfg ms) : WellTold cfg.mqtt ms := by
  obtain ⟨rounds, front, hfront, hms⟩ := h
  have htold : WellTold cfg.mqtt front := (run_wellTold cfg rounds).front hfront
  rcases hms with rfl | rfl
  · exact htold
  · refine htold.append_silent fun m hm r hr => ?_
    obtain rfl := List.mem_singleton.mp hm
    nomatch hr

end

namespace Broadcast

variable {σ : Type} [Link σ] {c : DaemonCfg} (b : Broadcast σ c)

/-- All that the broker has got. -/
def stream : List Message := Interleave.all b.trace

/-- The part of one task. -/
def part (i : Fin c.inverters.length) : List Message := Interleave.of i b.trace

theorem owned_of_mem {p : Fin c.inverters.length × Message} (h : p ∈ b.trace) :
    Owned c.mqtt (c.task c.inverters[p.1]).slots p.2 := by
  refine (b.arrives p.1).owned p.2 ?_
  exact List.mem_map_of_mem (List.mem_filter.mpr ⟨h, decide_eq_true rfl⟩)

variable {b} (hapart : c.SlotsApart)
include hapart

/-- A slot has one owner. -/
theorem owner_eq {i j : Fin c.inverters.length} {slot : String}
    (hi : slot ∈ (c.task c.inverters[i]).slots) (hj : slot ∈ (c.task c.inverters[j]).slots) : j = i := by
  by_contra hne
  exact hapart j i hne slot hj hi

/-- **Isolation**: on a topic whose writers all have this slot, the broker has what the slot's own
    task has left there, at any time. -/
theorem retainedOn_own {i : Fin c.inverters.length} {slot : String}
    (hi : slot ∈ (c.task c.inverters[i]).slots) {topic : String}
    (hwriter : ∀ slots m, Owned c.mqtt slots m → m.topic = topic → slot ∈ slots)
    {front : List (Fin c.inverters.length × Message)} (hfront : front <+: b.trace) :
    retainedOn topic (Interleave.all front) = retainedOn topic (Interleave.of i front) := by
  rw [retainedOn, retainedOn, Interleave.filter_all]
  intro p hp hpick
  obtain ⟨htopic, -⟩ := of_decide_eq_true hpick
  exact owner_eq hapart hi (hwriter _ _ (b.owned_of_mem (hfront.mem hp)) htopic)

/-- **The tasks do not interfere.**  Where no slot is used twice: every value in the broker's stream is
    shown when it comes; what is retained on the discovery and availability topics of a device is what
    its own task has left there; and the connections have different client ids.  So the last will of
    a connection that is lost is seen on its own slot, and on no topic of another task. -/
theorem tasks_do_not_interfere (b : Broadcast σ c) :
    WellTold c.mqtt b.stream ∧
      (∀ (i : Fin c.inverters.length) (inv : InverterIdentity),
        inv.slot ∈ (c.task c.inverters[i]).slots →
          retainedOn (c.mqtt.availabilityTopic inv) b.stream
              = retainedOn (c.mqtt.availabilityTopic inv) (b.part i) ∧
            (∀ sensor ∈ sensorCatalog,
              retainedOn (c.mqtt.discoveryTopic inv sensor) b.stream
                = retainedOn (c.mqtt.discoveryTopic inv sensor) (b.part i)) ∧
            ∀ sensor ∈ sensorCatalog,
              (b.stream.filter fun m => m.topic = c.mqtt.stateTopic inv sensor)
                = (b.part i).filter fun m => m.topic = c.mqtt.stateTopic inv sensor) ∧
      ∀ i j : Fin c.inverters.length,
        c.taskClientId c.inverters[i] = c.taskClientId c.inverters[j] → i = j := by
  refine ⟨?_, ?_, ?_⟩
  · intro before m back hsplit r hr
    -- the value stands in its own task's part, behind that task's part of what stands before it
    obtain ⟨front, i, rest, htrace, rfl⟩ := Interleave.all_split hsplit
    have hpart : Interleave.of i b.trace = Interleave.of i front ++ m :: Interleave.of i rest := by
      rw [htrace, Interleave.of_append, Interleave.of_cons_self]
    have howned : Owned c.mqtt (c.task c.inverters[i]).slots m := by
      refine (b.arrives i).owned m ?_
      rw [hpart]
      simp
    have hfront : front <+: b.trace := ⟨_, htrace.symm⟩
    obtain ⟨inv, sensor, hsensor, r', rfl, hshape, hconfig, honline⟩ :=
      (b.arrives i).wellTold _ _ _ hpart r hr
    have hslot : inv.slot ∈ (c.task c.inverters[i]).slots := howned.slot_of_value hsensor rfl
    refine ⟨inv, sensor, hsensor, r', rfl, hshape, ?_, ?_⟩
    · rw [retainedOn_own hapart hslot (fun _ _ h => h.slot_of_config hsensor) hfront]
      exact hconfig
    · show retainedOn (c.mqtt.availabilityTopic inv) _ = _
      rw [retainedOn_own hapart hslot (fun _ _ h => h.slot_of_availability) hfront]
      exact honline
  · intro i inv hslot
    refine ⟨?_, ?_, ?_⟩
    · exact retainedOn_own hapart hslot (fun _ _ h => h.slot_of_availability) List.prefix_rfl
    · intro sensor hsensor
      exact retainedOn_own hapart hslot (fun _ _ h => h.slot_of_config hsensor) List.prefix_rfl
    · intro sensor hsensor
      refine Interleave.filter_all fun p hp hpick => ?_
      exact owner_eq hapart hslot
        ((b.owned_of_mem hp).slot_of_value hsensor (of_decide_eq_true hpick))
  · intro i j hid
    have hslot := c.taskClientId_inj.mp hid
    have hi : c.inverters[j].slot ∈ (c.task c.inverters[i]).slots := by
      rw [← hslot]
      exact List.mem_cons_self
    have hj : c.inverters[j].slot ∈ (c.task c.inverters[j]).slots := List.mem_cons_self
    exact owner_eq hapart hj hi

end Broadcast

/-- Two inverters, each with an entry of its own. -/
def twoTasks : DaemonCfg where
  mqtt := ⟨"homeassistant", "hass-sma"⟩
  clientId := "hass-sma-rs"
  inverters :=
    [⟨"zolder", "SB 3000HF-30", "", [], 0, false⟩, ⟨"garage", "SB 2000HF-30", "", [], 0, false⟩]

/-- What a task hands over when its inverter is asleep. -/
def asleep (inv : InverterEntry) : List Message :=
  [twoTasks.mqtt.publishOffline ⟨inv.slot, 0, inv.model, inv.firmware⟩]

theorem asleep_run : ∀ inv ∈ twoTasks.inverters,
    (behind (twoTasks.task inv).start (runInverter (σ := Task.SilentLink) (twoTasks.task inv)
      (List.replicate 3 (.connectFailed "Host is down (os error 112)" 0 0)))).outbox = asleep inv := by
  decide +kernel

/-- The entries of `twoTasks`. -/
def zolder : Fin twoTasks.inverters.length := ⟨0, by decide⟩
def garage : Fin twoTasks.inverters.length := ⟨1, by decide⟩

theorem zolder_or_garage (i : Fin twoTasks.inverters.length) : i = zolder ∨ i = garage := by
  obtain ⟨n, hn⟩ := i
  have hlt : n < 2 := hn
  have hn : n = 0 ∨ n = 1 := by omega
  rcases hn with rfl | rfl
  · exact .inl rfl
  · exact .inr rfl

/-- Both inverters are asleep, and the second connection is lost. -/
def sampleBroadcast : Broadcast Task.SilentLink twoTasks where
  trace :=
    [(garage, twoTasks.mqtt.publishOffline ⟨"garage", 0, "SB 2000HF-30", ""⟩),
      (zolder, twoTasks.mqtt.publishOffline ⟨"zolder", 0, "SB 3000HF-30", ""⟩),
      (garage, lastWill (twoTasks.task twoTasks.inverters[garage]))]
  arrives i := by
    refine ⟨List.replicate 3 (.connectFailed "Host is down (os error 112)" 0 0),
      asleep twoTasks.inverters[i], ?_, ?_⟩
    · rw [asleep_run twoTasks.inverters[i] (List.getElem_mem i.isLt)]
    · rcases zolder_or_garage i with rfl | rfl
      · exact .inl rfl
      · exact .inr rfl

theorem tasks_do_not_interfere_two :
    retainedOn "hass-sma/zolder/availability" sampleBroadcast.stream
      = retainedOn "hass-sma/zolder/availability" (sampleBroadcast.part zolder) := by
  have hapart : twoTasks.SlotsApart := by
    intro i j hne
    rcases zolder_or_garage i with rfl | rfl
    · rcases zolder_or_garage j with rfl | rfl
      · exact absurd rfl hne
      · decide
    · rcases zolder_or_garage j with rfl | rfl
      · decide
      · exact absurd rfl hne
  exact ((Broadcast.tasks_do_not_interfere hapart sampleBroadcast).2.1 zolder
    ⟨"zolder", 0, "SB 3000HF-30", ""⟩ (by decide)).1

end HassSma
