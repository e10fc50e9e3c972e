import PortGraph.Document
import PortGraph.Json.Printer
import PortGraph.Text.Blank
import PortGraph.Text.Lowercase

/-!
# Configuration

Settings of the engine, read from a document in which every field is optional, and overridden from
named variables. Timing is kept as it was given; the accessors below clamp it when it is used.

## Main definitions

* `Config`, `RemoteConfig`, `RetryConfig`, `CacheConfig`, `Mode`
* `RemoteConfig.interval`, `limit`, `greatestInterval`, `backoff`: timing as it is used
* `Config.override`: variables applied one after another
* `Config.text`, `Config.ofText?`: a configuration file
-/

namespace PortGraph

/-! ### Settings -/

/-- Where node bodies run. -/
inductive Mode where
  | local
  | remote
deriving DecidableEq, Inhabited

/-- How to talk to the task service. Times are in milliseconds. -/
structure RemoteConfig where
  endpoint : String := "http://127.0.0.1:3000"
  pollIntervalMs : UInt64 := 1000
  timeoutMs : UInt64 := 60000
  /-- The interval grows by this factor with every poll. -/
  pollBackoff : Binary.Extended .double := .finite Double.one
  maxPollIntervalMs : UInt64 := 10000
  requestTimeoutMs : UInt64 := 10000
deriving DecidableEq, Inhabited

/-- How failed attempts are repeated in process. -/
structure RetryConfig where
  baseDelayMs : UInt64 := 500
deriving DecidableEq, Inhabited

/-- What the cache may hold. -/
structure CacheConfig where
  enabled : Bool := true
  ttlSecs : Option UInt64 := none
  maxEntries : Option UInt64 := none
deriving DecidableEq, Inhabited

/-- All settings. -/
structure Config where
  mode : Mode := .local
  remote : RemoteConfig := {}
  retry : RetryConfig := {}
  cache : CacheConfig := {}
  maxParallelNodes : Option UInt64 := none
  stopOnError : Bool := false
deriving DecidableEq, Inhabited

/-! ### Timing as it is used -/

namespace RemoteConfig

/-- The greatest time a task may take: a day. -/
def longestMs : Nat := 86400000

/-- The interval between polls, at least one millisecond. -/
def interval (c : RemoteConfig) : Nat := max c.pollIntervalMs.toNat 1

/-- The time a task may take, at most a day. -/
def limit (c : RemoteConfig) : Nat := min c.timeoutMs.toNat longestMs

/-- The interval that growing stops at, never below the first one. -/
def greatestInterval (c : RemoteConfig) : Nat := max c.maxPollIntervalMs.toNat c.interval

/-- The factor the interval grows by; one if it is not finite or below one. -/
def backoff (c : RemoteConfig) : Double :=
  match c.pollBackoff with
  | .finite x => if x.lt Double.one then Double.one else x
  | _ => Double.one

end RemoteConfig

/-! ### Modes -/

namespace Mode

/-- The name in documents. -/
def name : Mode → String
  | .local => "local"
  | .remote => "remote"

/-- Read a mode by its name. -/
def ofDocument? (w : Written) : Option Mode := w.choice? [("local", .local), ("remote", .remote)]

/-- Read a mode from text: blanks around it and the case of its letters do not matter. A text that
is no mode is answered as it was compared. -/
def ofText (s : String) : Except String Mode :=
  match Text.lowercaseAscii (Text.trim s) with
  | "local" => .ok .local
  | "remote" => .ok .remote
  | other => .error ("unknown execution mode '" ++ other ++ "'")

end Mode

/-! ### Documents -/

/-- Read remote settings. -/
def RemoteConfig.ofDocument? (w : Written) : Option RemoteConfig := do
  let [endpoint, interval, timeout, backoff, greatest, request] ←
    w.record? [["endpoint"], ["poll_interval_ms"], ["timeout_ms"], ["poll_backoff"],
      ["max_poll_interval_ms"], ["request_timeout_ms"]] | none
  let default : RemoteConfig := {}
  return {
    endpoint := ← Slot.orDefault? default.endpoint Written.text? endpoint
    pollIntervalMs := ← Slot.orDefault? default.pollIntervalMs Written.word64? interval
    timeoutMs := ← Slot.orDefault? default.timeoutMs Written.word64? timeout
    pollBackoff := ← Slot.orDefault? default.pollBackoff Written.extended? backoff
    maxPollIntervalMs := ← Slot.orDefault? default.maxPollIntervalMs Written.word64? greatest
    requestTimeoutMs := ← Slot.orDefault? default.requestTimeoutMs Written.word64? request }

/-- Read retry settings. -/
def RetryConfig.ofDocument? (w : Written) : Option RetryConfig := do
  let [delay] ← w.record? [["base_delay_ms"]] | none
  let default : RetryConfig := {}
  return { baseDelayMs := ← Slot.orDefault? default.baseDelayMs Written.word64? delay }

/-- Read cache settings. -/
def CacheConfig.ofDocument? (w : Written) : Option CacheConfig := do
  let [enabled, ttl, most] ← w.record? [["enabled"], ["ttl_secs"], ["max_entries"]] | none
  return {
    enabled := ← Slot.orDefault? true Written.bool? enabled
    ttlSecs := ← Slot.optional? Written.word64? ttl
    maxEntries := ← Slot.optional? Written.word64? most }

/-- Read a configuration. -/
def Config.ofDocument? (w : Written) : Option Config := do
  let [mode, remote, retry, cache, most, stop] ←
    w.record? [["mode"], ["remote"], ["retry"], ["cache"], ["max_parallel_nodes"],
      ["stop_on_error"]] | none
  return {
    mode := ← Slot.orDefault? .local Mode.ofDocument? mode
    remote := ← Slot.orDefault? {} RemoteConfig.ofDocument? remote
    retry := ← Slot.orDefault? {} RetryConfig.ofDocument? retry
    cache := ← Slot.orDefault? {} CacheConfig.ofDocument? cache
    maxParallelNodes := ← Slot.optional? Written.word64? most
    stopOnError := ← Slot.orDefault? false Written.bool? stop }

/-- Remote settings as a document. A factor that is not finite has no number. -/
def RemoteConfig.toJson (c : RemoteConfig) : Json :=
  .obj [("endpoint", .str c.endpoint), ("poll_interval_ms", .ofWord64 c.pollIntervalMs),
    ("timeout_ms", .ofWord64 c.timeoutMs), ("poll_backoff", .ofExtended c.pollBackoff),
    ("max_poll_interval_ms", .ofWord64 c.maxPollIntervalMs),
    ("request_timeout_ms", .ofWord64 c.requestTimeoutMs)]

/-- Retry settings as a document. -/
def RetryConfig.toJson (c : RetryConfig) : Json := .obj [("base_delay_ms", .ofWord64 c.baseDelayMs)]

/-- Cache settings as a document. -/
def CacheConfig.toJson (c : CacheConfig) : Json :=
  .obj [("enabled", .bool c.enabled), ("ttl_secs", .ofOption .ofWord64 c.ttlSecs),
    ("max_entries", .ofOption .ofWord64 c.maxEntries)]

/-- A configuration as a document. -/
def Config.toJson (c : Config) : Json :=
  .obj [("mode", .str c.mode.name), ("remote", c.remote.toJson), ("retry", c.retry.toJson),
    ("cache", c.cache.toJson), ("max_parallel_nodes", .ofOption .ofWord64 c.maxParallelNodes),
    ("stop_on_error", .bool c.stopOnError)]

/-! ### Files -/

/-- The text of a configuration file. -/
def Config.text (c : Config) : String := c.toJson.pretty

/-- Read the text of a configuration file. -/
def Config.ofText? (s : String) : Option Config :=
  match Written.ofText? s with
  | some w => Config.ofDocument? w
  | none => none

/-! ### Overrides -/

/-- A variable whose value does not fit. -/
structure OverrideError where
  key : String
  value : String
deriving DecidableEq, Inhabited

/-- The message about a variable. -/
def OverrideError.message (e : OverrideError) : String :=
  "Invalid value for " ++ e.key ++ ": '" ++ e.value ++ "'"

/-- A positive 64-bit whole number in decimal digits; blanks around it and a leading plus do not
matter. -/
def positive? (s : String) : Option UInt64 :=
  let cs := Text.trimChars s.toList
  let digits := match cs with
    | '+' :: rest => rest
    | _ => cs
  if digits.isEmpty || !digits.all Json.isDigit then none
  else
    let n := Json.digitsValue digits
    if 0 < n ∧ n < UInt64.size then some (UInt64.ofNat n) else none

namespace Config

/-- The variable that sets the mode. -/
def modeKey : String := "AUDITFLOW_MODE"

/-- The variable that sets the endpoint of the task service. -/
def endpointKey : String := "AUDITFLOW_REMOTE_ENDPOINT"

/-- The variable that sets the interval between polls. -/
def intervalKey : String := "AUDITFLOW_POLL_INTERVAL_MS"

/-- The variable that sets the time a task may take. -/
def timeoutKey : String := "AUDITFLOW_TIMEOUT_MS"

/-- Set the mode from a variable. -/
def overrideMode (lookup : String → Option String) (c : Config) : Except OverrideError Config :=
  match lookup modeKey with
  | none => .ok c
  | some v =>
    match Mode.ofText v with
    | .ok m => .ok { c with mode := m }
    | .error _ => .error ⟨modeKey, v⟩

/-- Set the endpoint from a variable. -/
def overrideEndpoint (lookup : String → Option String) (c : Config) : Config :=
  match lookup endpointKey with
  | none => c
  | some v => { c with remote := { c.remote with endpoint := v } }

/-- Set the interval between polls from a variable. -/
def overrideInterval (lookup : String → Option String) (c : Config) : Except OverrideError Config :=
  match lookup intervalKey with
  | none => .ok c
  | some v =>
    match positive? v with
    | some n => .ok { c with remote := { c.remote with pollIntervalMs := n } }
    | none => .error ⟨intervalKey, v⟩

/-- Set the time a task may take from a variable. -/
def overrideTimeout (lookup : String → Option String) (c : Config) : Except OverrideError Config :=
  match lookup timeoutKey with
  | none => .ok c
  | some v =>
    match positive? v with
    | some n => .ok { c with remote := { c.remote with timeoutMs := n } }
    | none => .error ⟨timeoutKey, v⟩

/-- Apply the variables one after another up to the first that does not fit. What was set before it
stays set. -/
def override (lookup : String → Option String) (c : Config) : Config × Option OverrideError :=
  match c.overrideMode lookup with
  | .error e => (c, some e)
  | .ok c =>
    let c := c.overrideEndpoint lookup
    match c.overrideInterval lookup with
    | .error e => (c, some e)
    | .ok c =>
      match c.overrideTimeout lookup with
      | .error e => (c, some e)
      | .ok c => (c, none)

end Config

end PortGraph
