/-
  Topics and ids told apart (`mqtt-discovery/src/client.rs`).

  A slot is any text, also one with slashes in it, so two topics are not told apart by looking at their
  levels one by one.  What is behind the last slash is always the publisher's own: `availability`,
  `config`, or a key of the catalog, and no key is one of the other two.

  Slots and keys may both have underscores in them, and a discovery topic or an id joins them with an
  underscore.  They are told apart all the same, because no key of the catalog ends in an underscore and
  another key (`sensorKeys_sepFree`): a name is taken apart from its end (`names_never_collide`).
-/
import HassSma.Lib.Joined
import HassSma.Mqtt.Discovery

namespace HassSma

/-- What is behind the last slash of a topic. -/
def topicLeaf (topic : String) : List Char :=
  (topic.toList.reverse.takeWhile (· ≠ '/')).reverse

theorem topicLeaf_append (front : String) {back : String} {leaf : List Char}
    (hback : back.toList = '/' :: leaf) (h : '/' ∉ leaf) : topicLeaf (front ++ back) = leaf := by
  have hrev : ∀ c ∈ leaf.reverse, (decide (c ≠ '/')) = true := by
    intro c hc
    rw [List.mem_reverse] at hc
    exact decide_eq_true fun heq => h (heq ▸ hc)
  rw [topicLeaf, String.toList_append, hback, List.reverse_append, List.reverse_cons,
    List.append_assoc, List.takeWhile_append_of_pos hrev, List.reverse_append]
  simp

namespace MqttClientConfig

variable (cfg : MqttClientConfig) (inv : InverterIdentity)

theorem topicLeaf_availabilityTopic :
    topicLeaf (cfg.availabilityTopic inv) = "availability".toList :=
  topicLeaf_append _ (by decide) (by decide)

theorem topicLeaf_discoveryTopic (sensor : SensorConfig) :
    topicLeaf (cfg.discoveryTopic inv sensor) = "config".toList :=
  topicLeaf_append _ (by decide) (by decide)

/-- No key has a slash, or is one of the other last levels. -/
theorem sensorKeys_leaf :
    ∀ key ∈ sensorKeys, '/' ∉ key.toList ∧ key.toList ≠ "availability".toList ∧
      key.toList ≠ "config".toList := by
  decide +kernel

theorem topicLeaf_stateTopic {sensor : SensorConfig} (h : sensor ∈ sensorCatalog) :
    topicLeaf (cfg.stateTopic inv sensor) = sensor.key.toList := by
  rw [stateTopic, String.append_assoc]
  exact topicLeaf_append _ (by rw [String.toList_append]; rfl)
    (sensorKeys_leaf _ (List.mem_map_of_mem h)).1

/-- A value never goes to an availability topic. -/
theorem stateTopic_ne_availabilityTopic {sensor : SensorConfig} (h : sensor ∈ sensorCatalog)
    (inv' : InverterIdentity) : cfg.stateTopic inv sensor ≠ cfg.availabilityTopic inv' := by
  intro heq
  have hleaf := congrArg topicLeaf heq
  rw [cfg.topicLeaf_stateTopic inv h, cfg.topicLeaf_availabilityTopic] at hleaf
  exact (sensorKeys_leaf _ (List.mem_map_of_mem h)).2.1 hleaf

/-- Nor does a discovery config. -/
theorem discoveryTopic_ne_availabilityTopic (sensor : SensorConfig) (inv' : InverterIdentity) :
    cfg.discoveryTopic inv sensor ≠ cfg.availabilityTopic inv' := by
  intro heq
  have hleaf := congrArg topicLeaf heq
  rw [topicLeaf_discoveryTopic, topicLeaf_availabilityTopic] at hleaf
  exact absurd hleaf (by decide)

/-- Availability topics are told apart by the slots. -/
theorem availabilityTopic_inj {inv inv' : InverterIdentity} :
    cfg.availabilityTopic inv = cfg.availabilityTopic inv' ↔ inv.slot = inv'.slot := by
  constructor
  · intro h
    have hlist := congrArg String.toList h
    simp only [availabilityTopic, String.toList_append, List.append_assoc,
      List.append_cancel_left_eq] at hlist
    exact String.toList_injective (List.append_cancel_right hlist)
  · intro h
    rw [availabilityTopic, availabilityTopic, h]

/-! ## Names from slots and keys -/

/-- The config that `announce` sends for a sensor. -/
def discoveryConfig (sensor : SensorConfig) : DiscoveryConfig :=
  { sensor := sensor
    uniqueId := "sbfspot_" ++ inv.slot ++ "_" ++ toString inv.serial ++ "_" ++ sensor.key
    objectId := "sbfspot_" ++ inv.slot ++ "_" ++ sensor.key
    stateTopic := cfg.stateTopic inv sensor
    availabilityTopic := cfg.availabilityTopic inv
    device := inv }

theorem announce_eq :
    cfg.announce inv = sensorCatalog.map fun s =>
      ⟨cfg.discoveryTopic inv s, true, .config (cfg.discoveryConfig inv s)⟩ := rfl

/-- No key of the catalog ends in an underscore and another key. -/
theorem sensorKeys_sepFree : Joined.SepFree '_' {x | x ∈ sensorKeys.map String.toList} := by
  have hkeys : ∀ x ∈ sensorKeys.map String.toList, ∀ y ∈ sensorKeys.map String.toList,
      ¬ '_' :: x <:+ y := by decide +kernel
  exact hkeys

theorem sensor_ext {s s' : SensorConfig} (hs : s ∈ sensorCatalog) (hs' : s' ∈ sensorCatalog)
    (h : s.key = s'.key) : s = s' := by
  have hnodup : (sensorCatalog.map SensorConfig.key).Nodup := by decide +kernel
  exact List.inj_on_of_nodup_map hnodup hs hs' h

/-- Anything, an underscore and a key: both parts are known. -/
theorem join_key_inj {s s' : SensorConfig} (hs : s ∈ sensorCatalog) (hs' : s' ∈ sensorCatalog)
    (a b : String) : a ++ "_" ++ s.key = b ++ "_" ++ s'.key ↔ a = b ∧ s = s' := by
  have hmem : ∀ t ∈ sensorCatalog, t.key.toList ∈ sensorKeys.map String.toList :=
    fun t ht => List.mem_map_of_mem (List.mem_map_of_mem ht)
  rw [sensorKeys_sepFree.text_inj (by decide) (hmem s hs) (hmem s' hs')]
  exact and_congr_right fun _ => ⟨sensor_ext hs hs', congrArg SensorConfig.key⟩

/-- Anything, an underscore and a serial number. -/
theorem join_serial_inj (a b : String) (n m : UInt32) :
    a ++ "_" ++ toString n = b ++ "_" ++ toString m ↔ a = b ∧ n = m := by
  have hdecimal : ∀ n : UInt32, (toString n).toList = Nat.toDigits 10 n.toNat :=
    fun n => Nat.toList_repr
  have hplain : ∀ n : UInt32, '_' ∉ (toString n).toList := by
    intro n
    rw [hdecimal]
    exact Nat.underscore_not_in_toDigits
  -- decimal digits hold no underscore, and are read back
  rw [Joined.sepFree_plain.text_inj (by decide) (hplain n) (hplain m)]
  refine and_congr_right fun _ => ⟨fun h => ?_, congrArg toString⟩
  have hdigits := congrArg String.toList h
  rw [hdecimal, hdecimal] at hdigits
  have hnat := congrArg (Nat.ofDigitChars 10 · 0) hdigits
  simp only [Nat.ofDigitChars_ten_toDigits] at hnat
  exact UInt32.toNat_inj.mp hnat

/-- State topics are told apart by slot and key: no key has a slash. -/
theorem stateTopic_inj {inv inv' : InverterIdentity} {s s' : SensorConfig} (hs : s ∈ sensorCatalog)
    (hs' : s' ∈ sensorCatalog) :
    cfg.stateTopic inv s = cfg.stateTopic inv' s' ↔ inv.slot = inv'.slot ∧ s = s' := by
  have hplain : ∀ t ∈ sensorCatalog, '/' ∉ t.key.toList :=
    fun t ht => (sensorKeys_leaf _ (List.mem_map_of_mem ht)).1
  rw [stateTopic, stateTopic,
    Joined.sepFree_plain.text_inj (by decide) (hplain s hs) (hplain s' hs'), String.append_right_inj]
  exact and_congr_right fun _ => ⟨sensor_ext hs hs', congrArg SensorConfig.key⟩

/-- **Names never collide**, whatever the slots are: two sensors share a discovery topic, an object id or
    a state topic only if slot and sensor are the same, a unique id only if the serial number is the same too,
    and no state topic is an availability topic. -/
theorem names_never_collide (inv inv' : InverterIdentity) {s s' : SensorConfig}
    (hs : s ∈ sensorCatalog) (hs' : s' ∈ sensorCatalog) :
    (cfg.discoveryTopic inv s = cfg.discoveryTopic inv' s' ↔ inv.slot = inv'.slot ∧ s = s') ∧
    ((cfg.discoveryConfig inv s).objectId = (cfg.discoveryConfig inv' s').objectId ↔
      inv.slot = inv'.slot ∧ s = s') ∧
    ((cfg.discoveryConfig inv s).uniqueId = (cfg.discoveryConfig inv' s').uniqueId ↔
      inv.slot = inv'.slot ∧ inv.serial = inv'.serial ∧ s = s') ∧
    (cfg.stateTopic inv s = cfg.stateTopic inv' s' ↔ inv.slot = inv'.slot ∧ s = s') ∧
    cfg.stateTopic inv s ≠ cfg.availabilityTopic inv' := by
  refine ⟨?_, ?_, ?_, ?_, cfg.stateTopic_ne_availabilityTopic inv hs inv'⟩
  · rw [discoveryTopic, discoveryTopic, String.append_left_inj, join_key_inj hs hs',
      String.append_right_inj]
  · rw [discoveryConfig, discoveryConfig, join_key_inj hs hs', String.append_right_inj]
  · rw [discoveryConfig, discoveryConfig, join_key_inj hs hs', join_serial_inj,
      String.append_right_inj, and_assoc]
  · exact cfg.stateTopic_inj hs hs'

/-- A slot that ends in what could be a serial number. -/
theorem names_never_collide_garage :
    ((⟨"homeassistant", "hass-sma"⟩ : MqttClientConfig).discoveryConfig
        ⟨"garage", 12, "", ""⟩ sensorCatalog[0]).uniqueId
      ≠ ((⟨"homeassistant", "hass-sma"⟩ : MqttClientConfig).discoveryConfig
        ⟨"garage_12", 12, "", ""⟩ sensorCatalog[0]).uniqueId := by
  intro h
  have hmem : sensorCatalog[0] ∈ sensorCatalog := List.getElem_mem _
  have hnames := names_never_collide ⟨"homeassistant", "hass-sma"⟩ ⟨"garage", 12, "", ""⟩
    ⟨"garage_12", 12, "", ""⟩ hmem hmem
  exact absurd (hnames.2.2.1.mp h).1 (by decide)

end MqttClientConfig

end HassSma
