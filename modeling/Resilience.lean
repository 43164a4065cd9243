import Resilience.Json.Reading
import Resilience.Settings.Reading
import Resilience.Settings.Writing
import Resilience.Session.Command
import Resilience.Main
import Resilience.Proofs.Cache.Refinement
import Resilience.Proofs.Cache.Capacity
import Resilience.Proofs.Cache.Tidying
import Resilience.Proofs.Breaker.SingleProbe
import Resilience.Proofs.Breaker.Replay
import Resilience.Proofs.Breaker.Tally
import Resilience.Proofs.Breaker.Cooldown
import Resilience.Proofs.Breaker.Release
import Resilience.Proofs.Breaker.Late
import Resilience.Proofs.Breaker.Fallback
import Resilience.Proofs.Bucket.Rate
import Resilience.Proofs.Bucket.Order
import Resilience.Proofs.Bucket.Shutdown
import Resilience.Proofs.Limiter.Conservation
import Resilience.Proofs.Limiter.Fairness
import Resilience.Proofs.Limiter.Overflow
import Resilience.Proofs.Rest
import Resilience.Proofs.Provenance
import Resilience.Proofs.Breaker.Recording
import Resilience.Proofs.Cache.Memo
import Resilience.Proofs.Cache.Presence
import Resilience.Proofs.Cache.Eviction
import Resilience.Proofs.Retry
import Resilience.Proofs.Timeout
import Resilience.Proofs.Cache.Representation
import Resilience.Proofs.Cache.Accounting
import Resilience.Proofs.Cache.Scene
import Resilience.Proofs.Breaker.Forgetting
import Resilience.Proofs.Diagnostics.ReadOnly
import Resilience.Proofs.Cache.Expiry
import Resilience.Proofs.Bucket.Waiting
import Resilience.Proofs.Registry.Sharing
import Resilience.Proofs.Cache.OrderOfUse
import Resilience.Proofs.Gauge
