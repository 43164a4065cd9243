import Resilience.Session.Schedule
import Resilience.Json.Text
import Resilience.Text.Quoted

/-!
# Commands

`Session.perform` carries out one command on a session and says what came of it. The command
itself is done at once; the tasks that it made ready run when the session settles, which it does
after every command, but not between the commands of a batch.

A command that names something that the session does not know changes nothing and is answered
with `Reply.unknown`.
-/

namespace Resilience

/-- A layer of an operation that is to be defined, with components by name. -/
inductive Layer where
  | retry (policy : Retry.Policy)
  /-- With the policy of the registry and perhaps a judgement of its own. -/
  | usualRetry (judge? : Option (Failure → Bool))
  | breaker (name : String)
  | fallback (name : String) (turns : List Turn)
  | limit (name : String)
  | rate (name : String)
  | timeout (limit : Duration) (name : String)
  | cached (cache : String) (keyStart : String) (ttl : Nat)

/-- Where a component stands. -/
inductive Place where
  | registry
  | own
deriving DecidableEq, Repr

/-- How a cache is created. -/
inductive CacheKind where
  /-- Without background sweeps. -/
  | plain (config : Cache.Config)
  /-- With background sweeps. -/
  | swept (config : Cache.Config)
  /-- With background sweeps and the settings of the registry. -/
  | usual

/-- What can be asked of a session. Names without an explanation are of what the command is
about; a configuration that is left out is the one in the settings. -/
inductive Command where
  | advance (ms : Nat)
  | batch (commands : List Command)
  | settings
  | policy
  | shutDown
  | events
  | clearEvents
  | emit (event : Event)
  | breaker (name : String) (config? : Option Breaker.Config)
  | status (name : String)
  | breakers
  | reset (name : String)
  | bucket (name : String) (config? : Option Bucket.Config) (place : Place)
  | bucketLevel (name : String)
  | refill (name : String)
  | bucketShutDown (name : String)
  | bucketDrop (name : String)
  | take (name : String) (id : String)
  | limiter (name : String) (config? : Option Limiter.Config) (place : Place)
  | limiterLevel (name : String)
  | acquire (name : String) (id : String)
  | release (id : String)
  | permit (id : String)
  | define (id : String) (turns : List Turn) (layers : List Layer)
  | call (op : String) (id : String) (arg : Json)
  | cancel (id : String)
  | finished (id : String)
  | cache (name : String) (kind : CacheKind)
  | cacheClone (name : String) (other : String)
  | cacheDrop (name : String)
  | set (cache : String) (key : String) (value : Json) (ttl? : Option Nat)
  | get (cache : String) (key : String)
  | has (cache : String) (key : String)
  | delete (cache : String) (key : String)
  | clear (cache : String)
  | cacheShutDown (cache : String)
  | statistics (cache : String)
  | sweep (cache : String)
  | request (cache : String) (request : Diagnostics.Request)

/-- What came of a command. -/
inductive Reply where
  /-- Nothing to tell. -/
  | done
  /-- Something was named that is not known. -/
  | unknown (name : String)
  | truth (b : Bool)
  | count (n : Nat)
  | text (text? : Option String)
  | settings (settings : Settings)
  /-- The events so far, if they are recorded. -/
  | events (events? : Option (List Event))
  | breaker (config : Breaker.Config) (status : Breaker.Status)
  | status (status? : Option Breaker.Status)
  | breakers (all : List Breaker.Status) (usual : Breaker.Config)
  | bucket (name : String) (config : Bucket.Config) (tokens queued : Nat)
  | bucketLevel (tokens queued : Nat)
  | limiter (name : String) (config : Limiter.Config) (active queued : Nat)
  | limiterLevel (active queued : Nat)
  | cache (config : Cache.Config)
  | value (value? : Option Json)
  | statistics (statistics : Cache.Statistics)
  | response (response : Diagnostics.Response)
  | batch (replies : List Reply)

/-- The part of a key that stands for an argument: a text as it is, anything else as the text of
the document. -/
def Json.keyText : Json → String
  | .string s => s
  | j => j.text

/-- A kept slot, for people to read. -/
def permitText (limiter : String) : String :=
  "Permit \x7b limiter: Some(" ++ Text.quote limiter ++ ") \x7d"

namespace Session

/-! ### Defining operations -/

/-- Puts a layer around an operation called `id`. -/
def wrap (id : String) (layer : Layer) (op : Operation) (s : Session) :
    Except String (Operation × Session) :=
  match layer with
  | .retry policy => .ok (.retrying op policy, s)
  | .usualRetry judge? => .ok (.retrying op ⟨s.world.settings.retry, judge?⟩, s)
  | .breaker name =>
    .ok (.guarded op name, { s with world := s.world.openBreaker name s.world.settings.breaker })
  | .fallback name turns =>
    let (source, w) :=
      (s.world.openBreaker name s.world.settings.breaker).createSource (id ++ "#fb") turns
    .ok (.withFallback op name (.source source), { s with world := w })
  | .limit name =>
    match s.limiters.get? name with
    | some limiter => .ok (.limited op limiter, s)
    | none => .error name
  | .rate name =>
    match s.buckets.get? name with
    | some bucket => .ok (.rateLimited op bucket, s)
    | none => .error name
  | .timeout limit name => .ok (.timed op limit name, s)
  | .cached cache keyStart ttl =>
    match s.caches.get? cache with
    | some cache => .ok (.cached op cache (fun arg => keyStart ++ arg.keyText) ttl, s)
    | none => .error cache

/-- Puts layers around an operation, the first one innermost. -/
def wrapAll (id : String) : List Layer → Operation → Session → Except String (Operation × Session)
  | [], op, s => .ok (op, s)
  | layer :: rest, op, s =>
    match s.wrap id layer op with
    | .ok (op, s) => wrapAll id rest op s
    | .error name => .error name

/-- Defines an operation. -/
def define (id : String) (turns : List Turn) (layers : List Layer) (s : Session) :
    Reply × Session :=
  let (source, w) := s.world.createSource id turns
  match { s with world := w }.wrapAll id layers (.source source) with
  | .ok (op, s) => (.done, { s with operations := s.operations.set id op })
  | .error name => (.unknown name, s)

/-! ### Components -/

def breaker (name : String) (config? : Option Breaker.Config) (s : Session) : Reply × Session :=
  let w := s.world.openBreaker name (config?.getD s.world.settings.breaker)
  match w.breakers.get? name with
  | some c => (.breaker c.config (c.state.status name), { s with world := w })
  | none => (.unknown name, s)

def bucket (name : String) (config? : Option Bucket.Config) (place : Place) (s : Session) :
    Reply × Session :=
  let config := config?.getD s.world.settings.bucket
  let (id, created, w) := match place with
    | .registry => s.world.openBucket name config
    | .own =>
      let (id, w) := s.world.createBucket name config
      (id, true, w)
  let s := { s with world := w, buckets := s.buckets.set name id }
  let s := if created then (s.spawn (.refill id none)).2 else s
  match s.world.buckets.get? id with
  | some c => (.bucket c.name c.config c.state.tokens c.state.queued, s)
  | none => (.unknown name, s)

def limiter (name : String) (config? : Option Limiter.Config) (place : Place) (s : Session) :
    Reply × Session :=
  let config := config?.getD s.world.settings.limiter
  let (id, w) := match place with
    | .registry => s.world.openLimiter name config
    | .own => s.world.createLimiter name config
  let s := { s with world := w, limiters := s.limiters.set name id }
  match s.world.limiters.get? id with
  | some c => (.limiter c.name c.config c.state.active c.state.queued, s)
  | none => (.unknown name, s)

def cache (name : String) (kind : CacheKind) (s : Session) : Reply × Session :=
  let (config, sweeping) : Cache.Config × Bool := match kind with
    | .plain config => (config, false)
    | .swept config => (config, true)
    | .usual => (s.world.settings.cache, true)
  let (id, w) := s.world.createCache config sweeping
  let s := { s with world := w, caches := s.caches.set name id }
  (.cache config, if sweeping then (s.spawn (.sweep id none)).2 else s)

/-! ### Looking things up by name -/

/-- Does something with the component of a name. -/
def withName (names : Table String ComponentId) (name : String) (s : Session)
    (act : ComponentId → Reply × Session) : Reply × Session :=
  match names.get? name with
  | some id => act id
  | none => (.unknown name, s)

/-- Does something with a cache. -/
def withCache (name : String) (s : Session) (act : Cache Json → Reply × Cache Json) :
    Reply × Session :=
  withName s.caches name s fun id =>
    match s.world.caches.get? id with
    | some c =>
      let (reply, c) := act c
      (reply, { s with world := { s.world with caches := s.world.caches.set id c } })
    | none => (.unknown name, s)

/-- Sets a value in a cache. -/
def setValue (cache key : String) (value : Json) (ttl? : Option Nat) (s : Session) :
    Reply × Session :=
  withName s.caches cache s fun id =>
    match s.world.caches.get? id with
    | some c =>
      (.done,
        { s with world := s.world.writeCache id key value (ttl?.getD c.store.defaultTtl) })
    | none => (.unknown cache, s)

/-- Forgets a name, and tells whether it was known. -/
def forget (names : Table String ComponentId) (name : String) :
    Bool × Table String ComponentId := (names.has name, names.erase name)

/-! ### Commands -/

mutual

/-- Carries out a command, without letting the tasks that it made ready run. -/
def perform (calendar : Diagnostics.Calendar) : Command → Session → Reply × Session
  | .advance ms, s => (.done, s.advance ms)
  | .batch commands, s =>
    let (replies, s) := performAll calendar commands s
    (.batch replies, s)
  | .settings, s => (.settings s.world.settings, s)
  | .policy, s =>
    (.text (some (Retry.Policy.description ⟨s.world.settings.retry, none⟩)), s)
  | .shutDown, s => (.done, { s with world := s.world.shutDown })
  | .events, s => (.events (if s.world.recording then some s.world.events else none), s)
  | .clearEvents, s => (.done, { s with world := { s.world with events := [] } })
  | .emit event, s => (.done, { s with world := s.world.report (some event) })
  | .breaker name config?, s => s.breaker name config?
  | .status name, s => (.status (s.world.status? name), s)
  | .breakers, s => (.breakers s.world.statuses s.world.settings.breaker, s)
  | .reset name, s =>
    let (known, w) := s.world.resetBreaker name
    (.truth known, { s with world := w })
  | .bucket name config? place, s => s.bucket name config? place
  | .bucketLevel name, s =>
    withName s.buckets name s fun id =>
      match s.world.buckets.get? id with
      | some c => (.bucketLevel c.state.tokens c.state.queued, s)
      | none => (.unknown name, s)
  | .refill name, s =>
    withName s.buckets name s fun id =>
      let (served, w) := s.world.refillBucket id
      (.count served, { s with world := w })
  | .bucketShutDown name, s =>
    withName s.buckets name s fun id =>
      (.done, { s with world := s.world.shutDownBucket id })
  | .bucketDrop name, s =>
    let (known, buckets) := forget s.buckets name
    (.truth known, { s with buckets := buckets })
  | .take name id, s =>
    withName s.buckets name s fun bucket =>
      (.done, s.spawnNamed id (.take id bucket none))
  | .limiter name config? place, s => s.limiter name config? place
  | .limiterLevel name, s =>
    withName s.limiters name s fun id =>
      match s.world.limiters.get? id with
      | some c => (.limiterLevel c.state.active c.state.queued, s)
      | none => (.unknown name, s)
  | .acquire name id, s =>
    withName s.limiters name s fun limiter =>
      (.done, s.spawnNamed id (.acquire id limiter none))
  | .release id, s =>
    let (held, s) := s.releasePermit id
    (.truth held, s)
  | .permit id, s =>
    let limiter? := (s.permits.get? id).bind s.world.limiters.get?
    (.text (limiter?.map fun c => permitText c.name), s)
  | .define id turns layers, s => s.define id turns layers
  | .call op id arg, s =>
    match s.operations.get? op with
    | some o => (.done, s.spawnNamed id (.call id o arg none))
    | none => (.unknown op, s)
  | .cancel id, s =>
    let (running, s) := s.cancel id
    (.truth running, s)
  | .finished id, s => (.truth (s.finished id), s)
  | .cache name kind, s => s.cache name kind
  | .cacheClone name other, s =>
    withName s.caches name s fun id =>
      (.done, { s with caches := s.caches.set other id })
  | .cacheDrop name, s =>
    let (known, caches) := forget s.caches name
    (.truth known, { s with caches := caches })
  | .set cache key value ttl?, s => s.setValue cache key value ttl?
  | .get cache key, s =>
    withCache cache s fun c =>
      let (found, c) := c.get s.world.now key
      (.value found, c)
  | .has cache key, s =>
    withCache cache s fun c =>
      let (found, c) := c.has s.world.now key
      (.truth found, c)
  | .delete cache key, s =>
    withCache cache s fun c =>
      let (found, c) := c.delete key
      (.truth found, c)
  | .clear cache, s => withCache cache s fun c => (.done, c.clear)
  | .cacheShutDown cache, s => withCache cache s fun c => (.done, c.shutDown)
  | .statistics cache, s =>
    withCache cache s fun c => (.statistics (c.statistics s.world.now), c)
  | .sweep cache, s =>
    withCache cache s fun c =>
      let (removed, c) := c.sweepNow s.world.now
      (.count removed, c)
  | .request cache request, s =>
    withName s.caches cache s fun id =>
      (.response (Diagnostics.respond calendar (s.view id) request), s)

/-- Carries out commands one after the other. -/
def performAll (calendar : Diagnostics.Calendar) : List Command → Session → List Reply × Session
  | [], s => ([], s)
  | command :: rest, s =>
    let (reply, s) := perform calendar command s
    let (replies, s) := performAll calendar rest s
    (reply :: replies, s)

end

/-- The session of an application: events are not recorded, and there is a cache called `main`
with the settings of the registry. -/
def application (settings : Settings) : Session :=
  ((create settings false).cache "main" .usual).2

/-- Carries out a command, lets the session settle, and tells what came of it and what happened
meanwhile. -/
def step (calendar : Diagnostics.Calendar) (command : Command) (s : Session) :
    Reply × List (Instant × Entry) × Session :=
  let (reply, s) := s.perform calendar command
  let s := s.settle
  (reply, s.world.log, { s with world := { s.world with log := [] } })

end Session

end Resilience
