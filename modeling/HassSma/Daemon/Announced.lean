/-
  What a reader of the topics has been told, over all rounds of an inverter task.

  Home Assistant learns of a sensor by a retained config on its discovery topic, takes the sensor's
  values from the state topic that is named there, and shows them while the availability topic says
  `online`.  So a value is of use only if all this stands in front of it (`Shown`).

  * `retainedOn_of_uniform`, `retainedOn_of_quiet` — what is retained behind an announcement, and that
    values leave it alone.
  * `shown_session` — behind the announcements of a session, every value of one of its targets is shown.
  * `run_wellTold` — so in every run, at every value: the config of its very sensor is retained, it
    names this topic, the value has the shape of the sensor, and the device is online.  No round can
    break it: a task is offline only between its sessions.
-/
import HassSma.Daemon.Availability
import HassSma.Daemon.Provenance

namespace HassSma

open Fallible History

/-! ## Retained messages -/

section

variable {topic : String} {xs ys : List Message}

/-- Messages that are not retained, or on other topics, change nothing. -/
theorem retainedOn_of_quiet (h : ∀ m ∈ ys, m.topic = topic → m.retained = false) :
    retainedOn topic (xs ++ ys) = retainedOn topic xs := by
  have hnone : (ys.filter fun m => m.topic = topic ∧ m.retained = true) = [] := by
    rw [List.filter_eq_nil_iff]
    intro m hm hdec
    obtain ⟨htopic, hretained⟩ := of_decide_eq_true hdec
    rw [h m hm htopic] at hretained
    nomatch hretained
  rw [retainedOn, retainedOn, List.filter_append, hnone, List.append_nil]

/-- If something has been retained behind `xs`, and all of it is so, then what is retained is. -/
theorem retainedOn_of_uniform (xs : List Message) {P : Payload → Prop}
    (hsome : ∃ m ∈ ys, m.topic = topic ∧ m.retained = true)
    (hall : ∀ m ∈ ys, m.topic = topic → P m.payload) :
    ∃ p, retainedOn topic (xs ++ ys) = some p ∧ P p := by
  obtain ⟨m, hm, htopic, hretained⟩ := hsome
  let picked := ys.filter fun m => m.topic = topic ∧ m.retained = true
  have hne : picked ≠ [] := List.ne_nil_of_mem
    (List.mem_filter.mpr ⟨hm, decide_eq_true ⟨htopic, hretained⟩⟩)
  obtain ⟨hlast, htopic'⟩ := List.mem_filter.mp (List.getLast_mem hne)
  refine ⟨(picked.getLast hne).payload, ?_, hall _ hlast (of_decide_eq_true htopic').1⟩
  rw [retainedOn, List.filter_append, List.map_append,
    List.getLast?_append_of_ne_nil _ (by rw [ne_eq, List.map_eq_nil_iff]; exact hne),
    List.getLast?_map, List.getLast?_eq_some_getLast hne]
  rfl

end

/-! ## What is shown -/

/-- Behind `before`, the message is a value that is shown: the config of its sensor is retained, the
    value has the sensor's shape, and its device is online. -/
def Shown (cfg : MqttClientConfig) (before : List Message) (m : Message) : Prop :=
  ∃ inv : InverterIdentity, ∃ sensor ∈ sensorCatalog, ∃ r,
    m = ⟨(cfg.discoveryConfig inv sensor).stateTopic, false, .value r⟩ ∧ sensor.shape = r.shape ∧
      retainedOn (cfg.discoveryTopic inv sensor) before
        = some (.config (cfg.discoveryConfig inv sensor)) ∧
      retainedOn (cfg.discoveryConfig inv sensor).availabilityTopic before
        = some (.availability "online")

/-- Every value is shown when it comes. -/
def WellTold (cfg : MqttClientConfig) (ms : List Message) : Prop :=
  ∀ before m behind, ms = before ++ m :: behind → ∀ r, m.payload = .value r → Shown cfg before m

section

variable {cfg : MqttClientConfig}

theorem wellTold_nil : WellTold cfg [] := by
  intro before m behind h
  exact nomatch (List.append_eq_nil_iff.mp h.symm).2

theorem WellTold.append {xs ys : List Message} (hxs : WellTold cfg xs)
    (hys : ∀ before m behind, ys = before ++ m :: behind → ∀ r, m.payload = .value r →
      Shown cfg (xs ++ before) m) : WellTold cfg (xs ++ ys) := by
  intro before m behind heq r hr
  rcases List.append_eq_append_iff.mp heq with ⟨between, hbefore, hsplit⟩ | ⟨between, hxs', hsplit⟩
  · rw [hbefore]
    exact hys between m behind hsplit r hr
  · cases between with
    | nil =>
      have hshown := hys [] m behind hsplit.symm r hr
      rwa [hxs', List.append_nil, List.append_nil] at hshown
    | cons m' between =>
      obtain ⟨rfl, -⟩ := List.cons.inj hsplit
      exact hxs before m between hxs' r hr

/-- What is no value needs nothing. -/
theorem WellTold.append_silent {xs ys : List Message} (hxs : WellTold cfg xs)
    (hys : ∀ m ∈ ys, ∀ r, m.payload ≠ .value r) : WellTold cfg (xs ++ ys) := by
  refine hxs.append fun before m behind heq r hr => ?_
  exact absurd hr (hys m (by rw [heq]; simp) r)

theorem WellTold.front {ms ms' : List Message} (h : WellTold cfg ms') (hfront : ms <+: ms') :
    WellTold cfg ms := by
  obtain ⟨rest, rfl⟩ := hfront
  intro before m behind heq r hr
  refine h before m (behind ++ rest) ?_ r hr
  rw [heq, List.append_assoc]
  rfl

/-! ## Announcements -/

theorem mem_announcements {targets : List Target} {m : Message} :
    m ∈ announcements cfg targets ↔ ∃ t ∈ targets,
      (∃ s ∈ sensorCatalog,
        m = ⟨cfg.discoveryTopic t.identity s, true, .config (cfg.discoveryConfig t.identity s)⟩) ∨
      m = cfg.publishOnline t.identity := by
  simp only [announcements, List.mem_flatMap, List.mem_append, MqttClientConfig.announce_eq, List.mem_map,
    List.mem_singleton]
  refine exists_congr fun t => and_congr_right fun _ => or_congr_left (exists_congr fun s =>
    and_congr_right fun _ => ⟨Eq.symm, Eq.symm⟩)

/-- Discovery topics are told apart by slot and sensor. -/
theorem discoveryTopic_inj {inv inv' : InverterIdentity} {s s' : SensorConfig} (hs : s ∈ sensorCatalog)
    (hs' : s' ∈ sensorCatalog) :
    cfg.discoveryTopic inv s = cfg.discoveryTopic inv' s' ↔ inv.slot = inv'.slot ∧ s = s' := by
  rw [MqttClientConfig.discoveryTopic, MqttClientConfig.discoveryTopic, String.append_left_inj,
    MqttClientConfig.join_key_inj hs hs', String.append_right_inj]

/-- Values leave what is retained alone. -/
theorem retainedOn_values {targets : List Target} {log : List LinkEvent} {ms : List Message}
    (h : ∀ m ∈ ms, ValueOf cfg targets log m) (topic : String) (xs : List Message) :
    retainedOn topic (xs ++ ms) = retainedOn topic xs := by
  refine retainedOn_of_quiet fun m hm _ => ?_
  obtain ⟨t, -, sensor, -, r, rfl, -⟩ := h m hm
  rfl

/-- Behind announcements, the config of every sensor of a target is retained. -/
theorem retainedOn_config {targets : List Target} {t : Target} (ht : t ∈ targets) {sensor : SensorConfig}
    (hsensor : sensor ∈ sensorCatalog) (xs : List Message) :
    ∃ inv : InverterIdentity, inv.slot = t.identity.slot ∧
      retainedOn (cfg.discoveryTopic t.identity sensor) (xs ++ announcements cfg targets)
        = some (.config (cfg.discoveryConfig inv sensor)) := by
  obtain ⟨p, hp, inv, hslot, rfl⟩ := retainedOn_of_uniform xs
    (P := fun p => ∃ inv : InverterIdentity, inv.slot = t.identity.slot ∧
      p = .config (cfg.discoveryConfig inv sensor))
    ⟨_, mem_announcements.mpr ⟨t, ht, .inl ⟨sensor, hsensor, rfl⟩⟩, rfl, rfl⟩ (by
      intro m hm htopic
      obtain ⟨t', -, ⟨s, hs, rfl⟩ | rfl⟩ := mem_announcements.mp hm
      · obtain ⟨hslot, rfl⟩ := (discoveryTopic_inj hs hsensor).mp htopic
        exact ⟨t'.identity, hslot, rfl⟩
      · exact absurd htopic.symm (cfg.discoveryTopic_ne_availabilityTopic t.identity sensor t'.identity))
  exact ⟨inv, hslot, hp⟩

/-- And the target is online. -/
theorem retainedOn_online {targets : List Target} {t : Target} (ht : t ∈ targets) (xs : List Message) :
    retainedOn (cfg.availabilityTopic t.identity) (xs ++ announcements cfg targets)
      = some (.availability "online") := by
  obtain ⟨p, hp, rfl⟩ := retainedOn_of_uniform xs (P := (· = .availability "online"))
    ⟨_, mem_announcements.mpr ⟨t, ht, .inr rfl⟩, rfl, rfl⟩ (by
      intro m hm htopic
      obtain ⟨t', -, ⟨s, -, rfl⟩ | rfl⟩ := mem_announcements.mp hm
      · exact absurd htopic (cfg.discoveryTopic_ne_availabilityTopic t'.identity s t.identity)
      · rfl)
  exact hp

/-- **Behind the announcements** of a session, every value of one of its targets is shown. -/
theorem shown_session {targets : List Target} {log : List LinkEvent} {xs before : List Message}
    {m : Message} (hbefore : ∀ m ∈ before, ValueOf cfg targets log m) (hm : ValueOf cfg targets log m) :
    Shown cfg (xs ++ announcements cfg targets ++ before) m := by
  obtain ⟨t, ht, sensor, hsensor, r, rfl, hshape, -⟩ := hm
  obtain ⟨inv, hslot, hconfig⟩ := retainedOn_config ht hsensor xs
  have hstate : cfg.stateTopic inv sensor = cfg.stateTopic t.identity sensor :=
    (cfg.stateTopic_inj hsensor hsensor).mpr ⟨hslot, rfl⟩
  have hdiscovery : cfg.discoveryTopic inv sensor = cfg.discoveryTopic t.identity sensor :=
    (discoveryTopic_inj hsensor hsensor).mpr ⟨hslot, rfl⟩
  have havailability : cfg.availabilityTopic inv = cfg.availabilityTopic t.identity :=
    cfg.availabilityTopic_inj.mpr hslot
  refine ⟨inv, sensor, hsensor, r, ?_, hshape, ?_, ?_⟩
  · show _ = (⟨cfg.stateTopic inv sensor, false, .value r⟩ : Message)
    rw [hstate]
  · rw [hdiscovery, retainedOn_values hbefore, hconfig]
  · show retainedOn (cfg.availabilityTopic inv) _ = _
    rw [havailability, retainedOn_values hbefore, retainedOn_online ht]

end

/-! ## Runs -/

section

variable {σ : Type} [Link σ] {cfg : RunCfg} {s : RunState}

theorem wellTold_session (h : WellTold cfg.mqtt s.outbox) (initSusy : UInt16) (initSerial : UInt32)
    (link : σ) (ticks yieldedAt : Nat) :
    WellTold cfg.mqtt (s.session cfg initSusy initSerial link ticks yieldedAt).outbox := by
  obtain ⟨ms, hbox, hms⟩ := session_values cfg s initSusy initSerial link ticks yieldedAt
  have hannounced : WellTold cfg.mqtt (s.loggedIn cfg initSusy initSerial link).outbox := by
    rw [RunState.loggedIn_outbox]
    refine h.append_silent fun m hm r hr => ?_
    obtain ⟨t, -, ⟨sensor, -, rfl⟩ | rfl⟩ := mem_announcements.mp hm
    · nomatch hr
    · nomatch hr
  rw [hbox]
  refine hannounced.append fun before m behind hsplit r _ => ?_
  rw [hsplit, List.forall_mem_append, List.forall_mem_cons] at hms
  rw [RunState.loggedIn_outbox]
  exact shown_session hms.1 hms.2.1

/-- **Every round** leaves it so. -/
theorem wellTold_round (h : WellTold cfg.mqtt s.outbox) (r : Round σ) :
    WellTold cfg.mqtt (s.round cfg r).2.outbox := by
  cases hended : s.ended with
  | true =>
    rw [RunState.round_ended hended]
    exact h
  | false =>
    cases r with
    | connectFailed error now later =>
      rw [RunState.round_connectFailed hended]
      obtain ⟨-, ⟨-, -, -, hbox⟩ | ⟨-, -, -, hbox, -⟩ | ⟨-, -, -, -, -, hbox⟩⟩ :=
        RunState.connectFailed_cases cfg error now later s rfl
      · rw [hbox]
        exact h
      · rw [hbox]
        exact h
      · rw [hbox]
        refine h.append_silent fun m hm r hr => ?_
        obtain ⟨inv, -, rfl⟩ := List.mem_map.mp hm
        nomatch hr
    | handshakeFailed =>
      rw [RunState.round_handshakeFailed hended, RunState.handshakeFailed_outbox,
        RunState.connected_outbox]
      exact h
    | session initSusy initSerial link ticks yieldedAt =>
      have hconnected : WellTold cfg.mqtt s.connected.outbox := by
        rw [RunState.connected_outbox]
        exact h
      rw [RunState.round_session hended]
      exact wellTold_session hconnected initSusy initSerial link ticks yieldedAt

/-- **Announced before shown.**  In every run of an inverter task, at every value: the config of its
    sensor is retained and names this topic, the value has the shape of the sensor, and the device is
    online. -/
theorem run_wellTold (cfg : RunCfg) (rounds : List (Round σ)) :
    WellTold cfg.mqtt (behind cfg.start (runInverter cfg rounds)).outbox :=
  history_behind (I := fun _ (s : RunState) => WellTold cfg.mqtt s.outbox)
    (fun _ r _ h => wellTold_round h r) wellTold_nil

end

end HassSma
