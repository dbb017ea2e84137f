/-
  Discovery topics and the sensor catalog (`mqtt-discovery/src/catalog.rs`, `client.rs`).

  The publisher announces one retained config per sensor of the catalog, and writes a value to the
  state topic of a sensor.  A value is published by the sensor's key, which is looked up in the
  catalog: a key that is not there panics (`publishValue_eq_ok_iff`).
-/
import HassSma.Client.Values

namespace HassSma

/-! ## The catalog -/

structure SensorConfig where
  name : String
  key : String
  deviceClass : Option String
  stateClass : Option String
  unit : Option String
  icon : String
  diagnostic : Bool
  deriving DecidableEq, Repr

def sensorCatalog : List SensorConfig :=
  [ ⟨"AC Power", "ac_power", some "power", some "measurement", some "W", "mdi:flash", false⟩,
    ⟨"AC Power L1", "ac_power_l1", some "power", some "measurement", some "W", "mdi:flash", false⟩,
    ⟨"AC Power L2", "ac_power_l2", some "power", some "measurement", some "W", "mdi:flash", false⟩,
    ⟨"AC Power L3", "ac_power_l3", some "power", some "measurement", some "W", "mdi:flash", false⟩,
    ⟨"AC Voltage L1", "ac_voltage_l1", some "voltage", some "measurement", some "V",
      "mdi:flash-triangle-outline", false⟩,
    ⟨"AC Voltage L2", "ac_voltage_l2", some "voltage", some "measurement", some "V",
      "mdi:flash-triangle-outline", false⟩,
    ⟨"AC Voltage L3", "ac_voltage_l3", some "voltage", some "measurement", some "V",
      "mdi:flash-triangle-outline", false⟩,
    ⟨"AC Current L1", "ac_current_l1", some "current", some "measurement", some "A",
      "mdi:current-ac", false⟩,
    ⟨"AC Current L2", "ac_current_l2", some "current", some "measurement", some "A",
      "mdi:current-ac", false⟩,
    ⟨"AC Current L3", "ac_current_l3", some "current", some "measurement", some "A",
      "mdi:current-ac", false⟩,
    ⟨"Grid Frequency", "grid_frequency", some "frequency", some "measurement", some "Hz",
      "mdi:sine-wave", false⟩,
    ⟨"DC Power String 1", "dc_power_s1", some "power", some "measurement", some "W",
      "mdi:solar-panel", false⟩,
    ⟨"DC Power String 2", "dc_power_s2", some "power", some "measurement", some "W",
      "mdi:solar-panel", false⟩,
    ⟨"DC Voltage String 1", "dc_voltage_s1", some "voltage", some "measurement", some "V",
      "mdi:flash-triangle-outline", false⟩,
    ⟨"DC Voltage String 2", "dc_voltage_s2", some "voltage", some "measurement", some "V",
      "mdi:flash-triangle-outline", false⟩,
    ⟨"DC Current String 1", "dc_current_s1", some "current", some "measurement", some "A",
      "mdi:current-dc", false⟩,
    ⟨"DC Current String 2", "dc_current_s2", some "current", some "measurement", some "A",
      "mdi:current-dc", false⟩,
    ⟨"Energy Today", "energy_today", some "energy", some "total_increasing", some "kWh",
      "mdi:solar-power-variant", false⟩,
    ⟨"Energy Lifetime", "energy_lifetime", some "energy", some "total_increasing", some "kWh",
      "mdi:counter", false⟩,
    ⟨"Operation Time", "operation_time", some "duration", some "total_increasing", some "h",
      "mdi:timer-sand", true⟩,
    ⟨"Feed-in Time", "feed_in_time", some "duration", some "total_increasing", some "h",
      "mdi:transmission-tower", true⟩,
    ⟨"Inverter Temperature", "temperature", some "temperature", some "measurement", some "°C",
      "mdi:thermometer", false⟩,
    ⟨"Inverter Status", "inverter_state", none, none, none, "mdi:heart-pulse", true⟩,
    ⟨"Poll Status", "poll_status", none, none, none, "mdi:check-network-outline", true⟩,
    ⟨"Grid Relay", "grid_relay", none, none, none, "mdi:electric-switch", true⟩,
    ⟨"Inverter Model", "inverter_model", none, none, none, "mdi:solar-panel-large", true⟩,
    ⟨"Firmware Version", "firmware_version", none, none, none, "mdi:chip", true⟩,
    ⟨"Session Uptime", "session_uptime", some "duration", some "measurement", some "s",
      "mdi:timer-outline", true⟩,
    ⟨"Last Poll", "last_poll", some "timestamp", none, none, "mdi:clock-check", true⟩,
    ⟨"Last Event", "last_event", none, none, none, "mdi:alert-circle-outline", true⟩,
    ⟨"Last Event At", "last_event_at", some "timestamp", none, none,
      "mdi:clock-alert-outline", true⟩,
    ⟨"Event Count 24h", "last_event_count_24h", none, some "measurement", none,
      "mdi:counter", true⟩,
    ⟨"Power Factor", "cos_phi", some "power_factor", some "measurement", none,
      "mdi:angle-acute", false⟩,
    ⟨"Max Feed-In Power", "max_feedin_w", some "power", some "measurement", some "W",
      "mdi:transmission-tower-export", true⟩,
    ⟨"Nominal AC Power", "nominal_ac_power_w", some "power", some "measurement", some "W",
      "mdi:tag", true⟩ ]

/-- The keys of the catalog. -/
def sensorKeys : List String := sensorCatalog.map SensorConfig.key

/-! ## The publisher -/

/-- A device as discovery sees it. -/
structure InverterIdentity where
  slot : String
  serial : UInt32
  model : String
  firmware : String
  deriving DecidableEq, Repr

/-- The prefixes of the topics. -/
structure MqttClientConfig where
  discoveryPrefix : String
  statePrefix : String

/-- A value as it is turned into text: `format!("{:.places}", raw / den)` for a scaled one, RFC 3339
    for a time. -/
inductive Reading where
  | int (n : Int)
  | scaled (v : Scaled) (places : Nat)
  | text (s : String)
  | time (unixNanos : Int)
  deriving DecidableEq, Repr

/-- The discovery payload of one sensor. -/
structure DiscoveryConfig where
  sensor : SensorConfig
  uniqueId : String
  objectId : String
  stateTopic : String
  availabilityTopic : String
  device : InverterIdentity
  deriving DecidableEq, Repr

inductive Payload where
  | config (c : DiscoveryConfig)
  | availability (s : String)
  | value (r : Reading)
  deriving DecidableEq, Repr

structure Message where
  topic : String
  retained : Bool
  payload : Payload
  deriving DecidableEq, Repr

inductive Panic where
  | expect (msg : String)
  deriving DecidableEq, Repr

namespace MqttClientConfig

variable (cfg : MqttClientConfig) (inv : InverterIdentity)

def availabilityTopic : String := cfg.statePrefix ++ "/" ++ inv.slot ++ "/availability"

def discoveryTopic (sensor : SensorConfig) : String :=
  cfg.discoveryPrefix ++ "/sensor/sbfspot_" ++ inv.slot ++ "_" ++ sensor.key ++ "/config"

def stateTopic (sensor : SensorConfig) : String :=
  cfg.statePrefix ++ "/" ++ inv.slot ++ "/" ++ sensor.key

/-- The configs of the whole catalog for one device. -/
def announce : List Message :=
  sensorCatalog.map fun s =>
    { topic := cfg.discoveryTopic inv s
      retained := true
      payload := .config
        { sensor := s
          uniqueId := "sbfspot_" ++ inv.slot ++ "_" ++ toString inv.serial ++ "_" ++ s.key
          objectId := "sbfspot_" ++ inv.slot ++ "_" ++ s.key
          stateTopic := cfg.stateTopic inv s
          availabilityTopic := cfg.availabilityTopic inv
          device := inv } }

def publishOnline : Message := ⟨cfg.availabilityTopic inv, true, .availability "online"⟩

def publishOffline : Message := ⟨cfg.availabilityTopic inv, true, .availability "offline"⟩

/-- The message that writes a value to the state topic of a sensor. -/
def publishValue (sensorKey : String) (value : Reading) : Except Panic Message :=
  match sensorCatalog.find? fun s => s.key = sensorKey with
  | none => .error (.expect "unknown sensor key")
  | some sensor => .ok ⟨cfg.stateTopic inv sensor, false, .value value⟩

/-- **A value can be published exactly under a key of the catalog.** -/
theorem publishValue_eq_ok_iff (sensorKey : String) (value : Reading) :
    (∃ m, cfg.publishValue inv sensorKey value = .ok m) ↔ sensorKey ∈ sensorKeys := by
  rw [publishValue, sensorKeys, List.mem_map]
  cases hfind : sensorCatalog.find? fun s => s.key = sensorKey with
  | none =>
    have hnone := List.find?_eq_none.mp hfind
    refine iff_of_false (fun ⟨m, hm⟩ => nomatch hm) ?_
    rintro ⟨s, hs, hkey⟩
    exact hnone s hs (decide_eq_true hkey)
  | some sensor =>
    have hkey := List.find?_some hfind
    exact iff_of_true ⟨_, rfl⟩ ⟨sensor, List.mem_of_find?_eq_some hfind, of_decide_eq_true hkey⟩

theorem publishValue_unknown {sensorKey : String} (h : sensorKey ∉ sensorKeys) (value : Reading) :
    cfg.publishValue inv sensorKey value = .error (.expect "unknown sensor key") := by
  cases hvalue : cfg.publishValue inv sensorKey value with
  | ok m => exact absurd ((cfg.publishValue_eq_ok_iff inv sensorKey value).mp ⟨m, hvalue⟩) h
  | error e =>
    rw [publishValue] at hvalue
    split at hvalue
    · exact hvalue.symm
    · nomatch hvalue

end MqttClientConfig

end HassSma
