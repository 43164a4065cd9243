import Resilience.Session.Command
import Resilience.Json.Text

/-!
# The diagnostics program

Reads its settings from the environment and answers one request a line, a method and a target
with a blank between them, until the input ends. The clock of the session follows the clock of
the machine.
-/

namespace Resilience

/-- The variables that settings are read from. -/
def settingNames : List String :=
  ["CACHE_MAX_KEYS", "CACHE_DEFAULT_TTL", "CACHE_SWEEP_INTERVAL", "BREAKER_FAILURE_THRESHOLD",
    "BREAKER_RESET_TIMEOUT_MS", "RETRY_MAX_ATTEMPTS", "RETRY_DELAY_MS",
    "RETRY_BACKOFF_MULTIPLIER", "BACKPRESSURE_MAX_CONCURRENCY", "BACKPRESSURE_MAX_QUEUE",
    "RATE_LIMIT_RATE", "RATE_LIMIT_INTERVAL_MS", "SERVER_PORT"]

/-- The settings in the environment of the program. -/
def readEnvironment : IO Settings := do
  let values ← settingNames.mapM fun name => do return (name, ← IO.getEnv name)
  return .ofEnvironment fun name => (values.lookup name).join

/-- Instants are written as milliseconds since the start. -/
def plainCalendar : Diagnostics.Calendar := ⟨toString, toString⟩

/-- An answer as lines of text: the status, the header fields, a blank line and the content. -/
def Diagnostics.Response.lines (r : Response) : List String :=
  toString r.status :: r.headers.map (fun (name, value) => name ++ ": " ++ value) ++
    match r.content with
    | .empty => [""]
    | .text s => ["", s]
    | .document j => ["", j.text]

/-- A request as written on a line. -/
def Diagnostics.Request.ofLine (line : String) : Request :=
  match line.trimAscii.toString.splitOn " " with
  | [target] => { target := target }
  | method :: target :: _ => { method := method, target := target }
  | [] => { target := "" }

/-- Answers requests until the input ends. -/
partial def serve (input output : IO.FS.Stream) (started : Nat) (s : Session) : IO Unit := do
  let line ← input.getLine
  if line.isEmpty then return
  let now ← IO.monoMsNow
  let (_, _, s) := s.step plainCalendar (.advance (now - started - s.world.now))
  let (reply, _, s) := s.step plainCalendar (.request "main" (.ofLine line))
  match reply with
  | .response response => response.lines.forM output.putStrLn
  | _ => pure ()
  output.flush
  serve input output started s

end Resilience

/-- Serves the diagnostics of a fresh session on the standard streams. -/
def main : IO Unit := do
  let settings ← Resilience.readEnvironment
  Resilience.serve (← IO.getStdin) (← IO.getStdout) (← IO.monoMsNow)
    (Resilience.Session.application settings)
