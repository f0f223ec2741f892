import Zetta.Protocol.Frame

/-! Validated endpoint configuration. -/

namespace Zetta

/-- The configuration parameters of an endpoint that its connections read. -/
structure ZtConfig where
  connectTimeout : Duration
  idleTimeout : Duration
  maxConcurrentStreams : Nat
  alpn : Bytes
  initialStreamWindow : Nat
  maxStreamWindow : Nat
  initialMaxData : Nat
  maxConnectionBuffer : Nat
  mtuMin : Nat
  mtuMax : Nat
  mtuProbeInterval : Duration
  cookieMaxAgeMs : Nat
  keyUpdatePacketInterval : Nat
  psk : Option Bytes
  maxPathValidationRetries : Nat
  deriving DecidableEq, Repr

namespace ZtConfig

/-- The default configuration. -/
def default : ZtConfig where
  connectTimeout := seconds 5
  idleTimeout := seconds 60
  maxConcurrentStreams := 100
  alpn := [122, 101, 116, 116, 97]
  initialStreamWindow := 1048576
  maxStreamWindow := 16 * 1024 * 1024
  initialMaxData := 1048576
  maxConnectionBuffer := 64 * 1024 * 1024
  mtuMin := 1200
  mtuMax := 9000
  mtuProbeInterval := seconds 15
  cookieMaxAgeMs := 5000
  keyUpdatePacketInterval := 2 ^ 20
  psk := none
  maxPathValidationRetries := 3

/-- The whole milliseconds of a duration. -/
def asMillis (duration : Duration) : Nat := duration / 1000000

/-- Check the values that affect wire bounds, resource limits and timer progress. -/
def validate (self : ZtConfig) : Except ZtError Unit := do
  if self.connectTimeout = 0 then
    throw (.invalidConfiguration "connect_timeout must be greater than zero")
  if asMillis self.idleTimeout = 0 ∨ asMillis self.idleTimeout > u64Size - 1 then
    throw (.invalidConfiguration "idle_timeout must fit in a non-zero millisecond wire value")
  if self.maxConcurrentStreams = 0 ∨ self.maxConcurrentStreams > (u32Size - 1) / 2 then
    throw (.invalidConfiguration "max_concurrent_streams must be in 1..=u32::MAX/2")
  if self.alpn = [] ∨ self.alpn.length > 255 then
    throw (.invalidConfiguration "alpn length must be in 1..=255 bytes")
  if self.initialStreamWindow = 0 ∨ self.initialStreamWindow > self.maxStreamWindow then
    throw (.invalidConfiguration
      "initial_stream_window must be non-zero and no larger than max_stream_window")
  if self.maxStreamWindow > self.maxConnectionBuffer ∨ self.maxStreamWindow ≥ u64Size then
    throw (.invalidConfiguration "max_stream_window must fit in usize and max_connection_buffer")
  if self.initialMaxData = 0 ∨ self.initialMaxData > u32Size - 1 then
    throw (.invalidConfiguration "initial_max_data must be in 1..=u32::MAX (ACK wire limit)")
  if self.maxConnectionBuffer = 0 then
    throw (.invalidConfiguration "max_connection_buffer must be greater than zero")
  if self.initialMaxData > self.maxConnectionBuffer then
    throw (.invalidConfiguration "initial_max_data must not exceed max_connection_buffer")
  if self.mtuMin < 1200 ∨ self.mtuMin > self.mtuMax then
    throw (.invalidConfiguration "mtu_min must be at least 1200 and no larger than mtu_max")
  if self.mtuProbeInterval = 0 then
    throw (.invalidConfiguration "mtu_probe_interval must be greater than zero")
  -- 65,507 is the maximum IPv4 UDP payload.
  if self.mtuMax > 65507 then
    throw (.invalidConfiguration "mtu_max must not exceed the UDP payload limit (65507)")
  if self.cookieMaxAgeMs = 0 then
    throw (.invalidConfiguration "cookie_max_age_ms must be greater than zero")
  if self.keyUpdatePacketInterval = 0 then
    throw (.invalidConfiguration "key_update_packet_interval must be greater than zero")

end ZtConfig

/-- The limits an endpoint advertises. -/
def TransportParameters.fromConfig (config : ZtConfig) : TransportParameters where
  maxStreams := config.maxConcurrentStreams
  initialStreamWindow := config.initialStreamWindow
  initialMaxData := config.initialMaxData
  maxDatagramSize := (config.mtuMax - 64) % u32Size
  idleTimeoutMs := ZtConfig.asMillis config.idleTimeout % u64Size

/-- The default configuration passes its own check. -/
theorem ZtConfig.default_valid : ZtConfig.default.validate = .ok () := by
  rfl

/-- What follows a check that was passed. -/
theorem ZtConfig.check_passed {refused : Prop} [Decidable refused] {error : ZtError}
    {rest : Except ZtError Unit}
    (passed : (do
      if refused then throw error
      rest) = .ok ()) : ¬ refused ∧ rest = .ok () := by
  by_cases holds : refused
  · rw [if_pos holds] at passed
    cases passed
  · rw [if_neg holds] at passed
    exact ⟨holds, passed⟩

/-- A configuration that passed its check counts packets up to a positive number. -/
theorem ZtConfig.interval_pos {config : ZtConfig} (valid : config.validate = .ok ()) :
    0 < config.keyUpdatePacketInterval := by
  unfold validate at valid
  -- The interval is checked last.
  iterate 13 replace valid := (check_passed valid).2
  exact Nat.pos_of_ne_zero (check_passed valid).1

/-- A protocol name that passed the check has its length in one byte. -/
theorem ZtConfig.alpn_length {config : ZtConfig} (valid : config.validate = .ok ()) :
    config.alpn.length < 2 ^ 8 := by
  unfold validate at valid
  iterate 3 replace valid := (check_passed valid).2
  have checked := (check_passed valid).1
  omega

/-- Limits that passed the check are advertised as they are, in words of their machine types. -/
theorem ZtConfig.limits_bounded {config : ZtConfig} (valid : config.validate = .ok ()) :
    config.maxConcurrentStreams ≤ (u32Size - 1) / 2 ∧ config.initialStreamWindow < u64Size ∧
      config.initialMaxData ≤ u32Size - 1 := by
  unfold validate at valid
  iterate 2 replace valid := (check_passed valid).2
  obtain ⟨streams, valid⟩ := check_passed valid
  obtain ⟨-, valid⟩ := check_passed valid
  obtain ⟨initial, valid⟩ := check_passed valid
  obtain ⟨largest, valid⟩ := check_passed valid
  obtain ⟨data, -⟩ := check_passed valid
  omega

/-- The first window of a stream that passed the check is within the largest. -/
theorem ZtConfig.window_le {config : ZtConfig} (valid : config.validate = .ok ()) :
    config.initialStreamWindow ≤ config.maxStreamWindow := by
  unfold validate at valid
  iterate 4 replace valid := (check_passed valid).2
  have checked := (check_passed valid).1
  omega

/-- The smallest size of a packet that passed the check is at least 1200, and within the largest. -/
theorem ZtConfig.mtu_bounds {config : ZtConfig} (valid : config.validate = .ok ()) :
    1200 ≤ config.mtuMin ∧ config.mtuMin ≤ config.mtuMax := by
  unfold validate at valid
  iterate 9 replace valid := (check_passed valid).2
  have checked := (check_passed valid).1
  omega

/-- The largest size of a packet that passed the check fits a datagram. -/
theorem ZtConfig.mtuMax_le {config : ZtConfig} (valid : config.validate = .ok ()) :
    config.mtuMax ≤ 65507 := by
  unfold validate at valid
  iterate 11 replace valid := (check_passed valid).2
  have checked := (check_passed valid).1
  omega

end Zetta
