import Resilience.Breaker
import Resilience.Limiter
import Resilience.Bucket
import Resilience.Retry
import Resilience.Cache.Shared
import Resilience.Number.Reading

/-!
# Settings

The settings give every kind of component its usual configuration. `Settings.ofEnvironment`
reads them from variables: a variable that is not set, or whose value cannot be read, leaves the
usual value in place.
-/

namespace Resilience

/-- The usual configuration of each kind of component. -/
structure Settings where
  cache : Cache.Config := {}
  breaker : Breaker.Config := {}
  retry : Retry.Config := {}
  limiter : Limiter.Config := {}
  bucket : Bucket.Config := {}
  /-- Where the diagnostics are served. -/
  port : Nat := 3000

namespace Settings

/-- The greatest port. -/
def maxPort : Nat := 0xFFFF

/-- Reads the settings, given the value of each variable. -/
def ofEnvironment (value : String → Option String) : Settings :=
  let natural (name : String) (bound usual : Nat) : Nat :=
    ((value name).bind (readNat? bound)).getD usual
  let millis (name : String) (usual : Duration) : Duration :=
    .ofMillis (natural name maxWord usual.millis)
  let d : Settings := {}
  { cache :=
      { maxKeys := natural "CACHE_MAX_KEYS" maxWord d.cache.maxKeys
        defaultTtl := natural "CACHE_DEFAULT_TTL" maxWord d.cache.defaultTtl
        sweepInterval :=
          .ofSecs (natural "CACHE_SWEEP_INTERVAL" maxWord d.cache.sweepInterval.secs) }
    breaker :=
      { failureThreshold :=
          natural "BREAKER_FAILURE_THRESHOLD" maxHalfWord d.breaker.failureThreshold
        resetTimeout := millis "BREAKER_RESET_TIMEOUT_MS" d.breaker.resetTimeout }
    retry :=
      { maxAttempts := natural "RETRY_MAX_ATTEMPTS" maxHalfWord d.retry.maxAttempts
        delay := millis "RETRY_DELAY_MS" d.retry.delay
        multiplier :=
          ((value "RETRY_BACKOFF_MULTIPLIER").bind readFloat?).getD d.retry.multiplier }
    limiter :=
      { maxConcurrency :=
          natural "BACKPRESSURE_MAX_CONCURRENCY" maxWord d.limiter.maxConcurrency
        maxQueue := natural "BACKPRESSURE_MAX_QUEUE" maxWord d.limiter.maxQueue }
    bucket :=
      { rate := natural "RATE_LIMIT_RATE" maxHalfWord d.bucket.rate
        interval := millis "RATE_LIMIT_INTERVAL_MS" d.bucket.interval }
    port := natural "SERVER_PORT" maxPort d.port }

end Settings

end Resilience
