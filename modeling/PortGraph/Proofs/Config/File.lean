import PortGraph.Config
import PortGraph.Proofs.Document
import PortGraph.Proofs.Json.Reading

/-!
# Configuration files

A configuration is written to a file as indented text, and read from it again. What is read is the
configuration that was written, in every field: texts with quotes, backslashes and controls in them,
times up to the greatest of 64 bits, settings that are absent. As to the factor, this rests on a
reader that takes the nearest number for the digits it finds, however many there are, as the one at
hand does.

There is one exception. A factor between intervals that is not finite has no number, and `null`
stands in its place, which is not read as a factor. So such a configuration is written to a file
that cannot be read, although the factor is as good as one when it is used.

## Main definitions

* `Config.timing`: all timing, as it is used
* `Config.settled`: the factor that is used in place of the one that was given

## Main results

* `Config.ofDocument?_of_arranges`: what a configuration is read as, its fields in any order
* `Config.ofText?_text`: a configuration is read from its file as it was
* `Config.timing_of_ofText?_text`: which files can be read, and how timing comes out of them
-/

namespace PortGraph

open Json

/-! ### Settings -/

theorem Mode.isReadAs (m : Mode) : (str m.name).IsReadAs ofDocument? m := by
  refine isReadAs_of_leaf nofun nofun ?_
  cases m <;> rfl

theorem RetryConfig.isReadAs (c : RetryConfig) : c.toJson.IsReadAs ofDocument? c := by
  intro j hj
  have ⟨_, hrecord, .cons hdelay .nil⟩ := hj.exists_record? [["base_delay_ms"]] ["base_delay_ms"]
    (.refl _) (by decide)
  rw [ofDocument?, hrecord]
  simp only [Option.bind_eq_bind, Option.bind_some, hdelay.orDefault? (isReadAs_ofWord64 _)]
  rfl

theorem CacheConfig.isReadAs (c : CacheConfig) : c.toJson.IsReadAs ofDocument? c := by
  intro j hj
  have ⟨_, hrecord, .cons henabled (.cons httl (.cons hmost .nil))⟩ := hj.exists_record?
    [["enabled"], ["ttl_secs"], ["max_entries"]] ["enabled", "ttl_secs", "max_entries"] (.refl _)
    (by decide)
  rw [ofDocument?, hrecord]
  simp only [Option.bind_eq_bind, Option.bind_some, henabled.orDefault? (isReadAs_bool _),
    httl.optional? (isReadAs_ofOption isReadAs_ofWord64 rfl _),
    hmost.optional? (isReadAs_ofOption isReadAs_ofWord64 rfl _)]
  rfl

/-- **Remote settings are read as they were written**, unless there is no number for the factor. -/
theorem RemoteConfig.ofDocument?_of_arranges {c : RemoteConfig} {j : Json}
    (hj : j.Arranges c.toJson) :
    ofDocument? (.ofJson j) = if c.pollBackoff.isFinite then some c else none := by
  have ⟨_, hrecord, .cons hendpoint (.cons hinterval (.cons htimeout (.cons hbackoff
    (.cons hgreatest (.cons hrequest .nil)))))⟩ := hj.exists_record?
      [["endpoint"], ["poll_interval_ms"], ["timeout_ms"], ["poll_backoff"],
        ["max_poll_interval_ms"], ["request_timeout_ms"]]
      ["endpoint", "poll_interval_ms", "timeout_ms", "poll_backoff", "max_poll_interval_ms",
        "request_timeout_ms"] (.refl _) (by decide)
  rw [ofDocument?, hrecord]
  simp only [Option.bind_eq_bind, Option.bind_some, hendpoint.orDefault? (isReadAs_str _),
    hinterval.orDefault? (isReadAs_ofWord64 _), htimeout.orDefault? (isReadAs_ofWord64 _),
    hbackoff.orDefault?_eq fun _ => extended?_of_arranges,
    hgreatest.orDefault? (isReadAs_ofWord64 _), hrequest.orDefault? (isReadAs_ofWord64 _)]
  cases c.pollBackoff.isFinite <;> rfl

namespace Config

variable {c d : Config}

/-- The same for a whole configuration. -/
theorem ofDocument?_of_arranges {j : Json} (hj : j.Arranges c.toJson) :
    ofDocument? (.ofJson j) = if c.remote.pollBackoff.isFinite then some c else none := by
  have ⟨_, hrecord, .cons hmode (.cons hremote (.cons hretry (.cons hcache (.cons hmost
    (.cons hstop .nil)))))⟩ := hj.exists_record?
      [["mode"], ["remote"], ["retry"], ["cache"], ["max_parallel_nodes"], ["stop_on_error"]]
      ["mode", "remote", "retry", "cache", "max_parallel_nodes", "stop_on_error"] (.refl _)
      (by decide)
  rw [ofDocument?, hrecord]
  simp only [Option.bind_eq_bind, Option.bind_some, hmode.orDefault? (Mode.isReadAs _),
    hremote.orDefault?_eq fun _ => RemoteConfig.ofDocument?_of_arranges,
    hretry.orDefault? (RetryConfig.isReadAs _), hcache.orDefault? (CacheConfig.isReadAs _),
    hmost.optional? (isReadAs_ofOption isReadAs_ofWord64 rfl _), hstop.orDefault? (isReadAs_bool _)]
  cases c.remote.pollBackoff.isFinite <;> rfl

theorem isUnambiguous (c : Config) : c.toJson.IsUnambiguous := by
  have hremote : c.remote.toJson.IsUnambiguous := isUnambiguous_obj (by simp) (by simp)
  have hretry : c.retry.toJson.IsUnambiguous := isUnambiguous_obj (by simp) (by simp)
  have hcache : c.cache.toJson.IsUnambiguous :=
    isUnambiguous_obj (by simp) (by simp [isUnambiguous_ofOption])
  exact isUnambiguous_obj (by simp) (by simp [hremote, hretry, hcache, isUnambiguous_ofOption])

/-! ### Files -/

/-- **A configuration can be written down**: it has two levels, and its numbers are of 64 bits. -/
theorem isLegible (c : Config) : c.toJson.IsLegible nestingLimit := by
  have hword (levels : Nat) (n : UInt64) : (ofWord64 n).IsLegible levels := by
    have hn := n.toNat_lt
    simp only [ofWord64, Json.ofNat, IsLegible, Number.IsLegible]
    omega
  have hoption (levels : Nat) (n? : Option UInt64) : (ofOption ofWord64 n?).IsLegible levels := by
    cases n? with
    | none => trivial
    | some n => exact hword levels n
  have hfactor (levels : Nat) : (Json.ofExtended c.remote.pollBackoff).IsLegible levels := by
    cases c.remote.pollBackoff <;> trivial
  simp [toJson, RemoteConfig.toJson, RetryConfig.toJson, CacheConfig.toJson, IsLegible,
    AreLegibleMembers, nestingLimit, hword, hoption, hfactor]

/-- **A file is read as the configuration that it was written from**, unless there is no number for
the factor between intervals; then it cannot be read. -/
theorem ofText?_text_eq (c : Config) :
    ofText? c.text = if c.remote.pollBackoff.isFinite then some c else none := by
  rw [ofText?, text, Written.ofText?_pretty c.isLegible]
  exact ofDocument?_of_arranges c.isUnambiguous.arranges

/-- **A configuration is read from its file as it was.** Its factor between intervals is a number,
and all else may be anything. -/
theorem ofText?_text (c : Config) (h : c.remote.pollBackoff.isFinite) :
    ofText? c.text = some c := by
  rw [ofText?_text_eq, if_pos h]

/-- An address with quotes, a backslash, controls and letters of several bytes, the greatest and the
least of times, and a factor of negative zero. -/
def awkward : Config where
  mode := .remote
  remote := {
    endpoint := "\"\\\n\x01\x7fé😀"
    pollIntervalMs := 18446744073709551615
    timeoutMs := 0
    pollBackoff := .finite Double.negativeZero }
  cache := { enabled := false, ttlSecs := some 18446744073709551615 }
  maxParallelNodes := some 0

theorem ofText?_text_awkward :
    awkward.remote.pollBackoff.isFinite = true ∧ ofText? awkward.text = some awkward :=
  ⟨rfl, ofText?_text awkward rfl⟩

end Config

/-! ### Timing -/

/-- Timing as it is used: times in milliseconds, and the factor between intervals. -/
structure Timing where
  interval : Nat
  limit : Nat
  greatestInterval : Nat
  backoff : Double
  requestTimeout : Nat
  baseDelay : Nat

namespace Config

variable {c d : Config}

/-- All timing of a configuration, as it is used. -/
def timing (c : Config) : Timing where
  interval := c.remote.interval
  limit := c.remote.limit
  greatestInterval := c.remote.greatestInterval
  backoff := c.remote.backoff
  requestTimeout := c.remote.requestTimeoutMs.toNat
  baseDelay := c.retry.baseDelayMs.toNat

/-- The configuration with the factor that is used in place of the one that was given. -/
def settled (c : Config) : Config :=
  { c with remote := { c.remote with pollBackoff := .finite c.remote.backoff } }

theorem timing_settled (c : Config) : c.settled.timing = c.timing := by
  have hbackoff : c.settled.remote.backoff = c.remote.backoff := by
    have hone : Double.one.lt Double.one = false := decide_eq_false (Int.lt_irrefl _)
    show (if c.remote.backoff.lt Double.one then Double.one else c.remote.backoff) =
      c.remote.backoff
    rw [RemoteConfig.backoff]
    split
    · split <;> simp_all
    · simp [hone]
  rw [timing, hbackoff]
  rfl

/-- **Timing comes out of a file as it went in**, for all files that can be read. They are the files
of configurations whose factor is a number; and every timing is the timing of such a one. -/
theorem timing_of_ofText?_text (c : Config) :
    ((∃ d, ofText? c.text = some d) ↔ c.remote.pollBackoff.isFinite) ∧
    (∀ d, ofText? c.text = some d → d.timing = c.timing) ∧
    ∃ d, ofText? c.settled.text = some d ∧ d.timing = c.timing := by
  refine ⟨?_, fun d hd => ?_, c.settled, ?_, c.timing_settled⟩
  · rw [ofText?_text_eq]
    cases c.remote.pollBackoff.isFinite <;> simp
  · rw [ofText?_text_eq, Option.ite_none_right_eq_some] at hd
    cases hd.2
    rfl
  · rw [ofText?_text_eq]
    rfl

/-- A time of zero between polls and a factor of zero, which are used as one millisecond and one. -/
theorem timing_of_hasty :
    let hasty : Config := { remote := { pollIntervalMs := 0, pollBackoff := .finite Double.zero } }
    hasty.timing.interval = 1 ∧ hasty.timing.backoff = Double.one ∧
      ∃ d, ofText? hasty.text = some d ∧ d.timing = hasty.timing := by
  intro hasty
  obtain ⟨hread, htiming, -⟩ := timing_of_ofText?_text hasty
  obtain ⟨d, hd⟩ := hread.mpr rfl
  exact ⟨rfl, by decide +kernel, d, hd, htiming d hd⟩

/-- A factor that is undefined is used as one, and the file it is written to cannot be read. -/
theorem ofText?_text_undefined :
    let c : Config := { remote := { pollBackoff := .undefined } }
    c.timing.backoff = Double.one ∧ ofText? c.text = none := by
  intro c
  rw [ofText?_text_eq]
  exact ⟨rfl, rfl⟩

end Config

end PortGraph
