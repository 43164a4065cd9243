import Resilience.Settings.Basic

/-!
# Writing configurations as documents

Each configuration is written as an object with its fields by name; a duration is an object with
its whole seconds and the nanoseconds on top.
-/

namespace Resilience

/-- A duration as a document. -/
def Duration.json (d : Duration) : Json :=
  .object [("nanos", .ofNat d.subsecNanos), ("secs", .ofNat d.secs)]

namespace Settings

def writeBreaker (c : Breaker.Config) : Json :=
  .object [("failure_threshold", .ofNat c.failureThreshold), ("reset_timeout", c.resetTimeout.json)]

def writeRetry (c : Retry.Config) : Json :=
  .object [("backoff_multiplier", .float c.multiplier), ("delay", c.delay.json),
    ("max_attempts", .ofNat c.maxAttempts)]

def writeCache (c : Cache.Config) : Json :=
  .object [("default_ttl", .ofNat c.defaultTtl), ("max_keys", .ofNat c.maxKeys),
    ("sweep_interval", c.sweepInterval.json)]

def writeBucket (c : Bucket.Config) : Json :=
  .object [("interval", c.interval.json), ("rate", .ofNat c.rate)]

def writeLimiter (c : Limiter.Config) : Json :=
  .object [("max_concurrency", .ofNat c.maxConcurrency), ("max_queue", .ofNat c.maxQueue)]

end Settings

end Resilience
