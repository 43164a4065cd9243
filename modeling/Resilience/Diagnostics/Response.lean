import Resilience.Diagnostics.Page
import Resilience.Diagnostics.Path

/-!
# Answering requests

`respond` answers a request from what the registry shows at that moment. Pages can be read, with
`GET`, or asked for without their content, with `HEAD`; nothing can be changed. Any site may ask:
every answer says so, and a question about what is allowed (`OPTIONS`) is answered for every
path, whether or not there is a page.
-/

namespace Resilience

namespace Diagnostics

/-- A request: a method and a target, which is a path and perhaps a query. -/
structure Request where
  method : String := "GET"
  target : String

/-- The content of an answer. -/
inductive Content where
  | empty
  | text (s : String)
  | document (j : Json)

/-- An answer. -/
structure Response where
  status : Nat
  /-- The header fields that tell something about the content or about what is allowed. -/
  headers : List (String × String)
  content : Content

/-- What there is to show. -/
structure View where
  now : Instant
  /-- The status of every breaker, by name in rising order. -/
  breakers : List Breaker.Status
  /-- The status of the breaker of a name. -/
  status? : String → Option Breaker.Status
  statistics : Cache.Statistics

/-- The header fields of every answer. -/
def openHeaders : List (String × String) :=
  [("access-control-allow-origin", "*"),
    ("vary", "origin, access-control-request-method, access-control-request-headers")]

/-- The header fields of an answer to a question about what is allowed. -/
def preflightHeaders : List (String × String) :=
  [("access-control-allow-methods", "*"), ("access-control-allow-headers", "*")]

/-- The header field that names the methods of a page. -/
def allowHeaders : List (String × String) := [("allow", "GET,HEAD")]

/-- The page about one breaker. -/
def View.breakerPage (name : String) (view : View) : Page :=
  match view.status? name with
  | some status => .breaker status
  | none => .unknownBreaker name

/-- What a route leads to: a page, a complaint about the path, or nothing at all. -/
def View.visit (view : View) : Route → Option (Except String Page)
  | .health => some (.ok (.health view.now))
  | .statistics => some (.ok (.statistics view.statistics))
  | .breakers => some (.ok (.breakers view.breakers))
  | .breaker segment =>
    match segmentText? segment with
    | some name => some (.ok (view.breakerPage name))
    | none => some (.error "Invalid URL: Invalid UTF-8 in `name`")
  | .unknown => none

/-- An answer with content. -/
def Response.ofVisit (calendar : Calendar) : Except String Page → Response
  | .ok page =>
    ⟨page.status, ("content-type", "application/json") :: openHeaders,
      .document (page.json calendar)⟩
  | .error complaint =>
    ⟨400, ("content-type", "text/plain; charset=utf-8") :: openHeaders, .text complaint⟩

/-- Answers a request. -/
def respond (calendar : Calendar) (view : View) (request : Request) : Response :=
  let visit := view.visit (Route.ofPath (pathOf request.target))
  if request.method = "OPTIONS" then
    ⟨200, (if visit.isSome then allowHeaders else []) ++ openHeaders ++ preflightHeaders, .empty⟩
  else match visit with
    | none => ⟨404, openHeaders, .empty⟩
    | some found =>
      if request.method = "GET" then Response.ofVisit calendar found
      else if request.method = "HEAD" then
        { Response.ofVisit calendar found with content := .empty }
      else ⟨405, allowHeaders ++ openHeaders, .empty⟩

/-- The answer when something that was asked for is not there. -/
def Missing.response : Missing → Response
  | .notFound what => ⟨404, [("content-type", "application/json")], .document (errorJson what)⟩

end Diagnostics

end Resilience
