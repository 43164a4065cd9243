import Resilience.Breaker
import Resilience.Cache.Statistics

/-!
# Diagnostic pages

A page is what the diagnostics have to say: that the program is up, the statistics of the cache,
the breakers, one breaker, or that there is none of that name. How instants are written is left
to a `Calendar`, since the clock of the library only counts milliseconds.
-/

namespace Resilience

namespace Diagnostics

/-- How instants are written. -/
structure Calendar where
  /-- The instant of a failure. -/
  ofFailure : Instant → String
  /-- The instant of a request. -/
  ofRequest : Instant → String

/-- What the diagnostics show. -/
inductive Page where
  | health (now : Instant)
  | statistics (s : Cache.Statistics)
  | breakers (all : List Breaker.Status)
  | breaker (status : Breaker.Status)
  | unknownBreaker (name : String)
deriving DecidableEq, Repr

/-- A status as a document. -/
def statusJson (calendar : Calendar) (s : Breaker.Status) : Json :=
  .object
    [("failure_count", .ofNat s.failureCount),
      ("last_failure_at", match s.lastFailure with
        | some failedAt => .string (calendar.ofFailure failedAt)
        | none => .null),
      ("name", .string s.name), ("state", .string s.phase.word),
      ("success_count", .ofNat s.successCount)]

/-- A complaint as a document. -/
def errorJson (message : String) : Json := .object [("error", .string message)]

/-- What is missing when a breaker is. -/
def missingBreaker (name : String) : String := "circuit breaker '" ++ name ++ "'"

/-- A page as a document. -/
def Page.json (calendar : Calendar) : Page → Json
  | health now =>
    .object [("status", .string "healthy"), ("timestamp", .string (calendar.ofRequest now))]
  | statistics s => s.report
  | breakers all =>
    .object [("breakers", .array (all.map (statusJson calendar))), ("count", .ofNat all.length)]
  | breaker status => statusJson calendar status
  | unknownBreaker name => errorJson (missingBreaker name)

/-- The status of an answer that shows a page. -/
def Page.status : Page → Nat
  | unknownBreaker _ => 404
  | _ => 200

/-- Something that was asked for and is not there. -/
inductive Missing where
  | notFound (what : String)
deriving DecidableEq, Repr

def Missing.message : Missing → String
  | notFound what => "Not found: " ++ what

end Diagnostics

end Resilience
