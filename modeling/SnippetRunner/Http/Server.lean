import SnippetRunner.Config.Basic
import SnippetRunner.Engine.Basic
import SnippetRunner.Http.Manual
import SnippetRunner.Http.Message
import SnippetRunner.Http.Payload
import SnippetRunner.Number.Reading

/-!
# The server

Answers requests one after another with the engine. A body that is too long is turned away before
anything else is looked at; then the path and the method decide who answers. The length that a
request gives for its body is looked at only if it is made of digits; digits that make no number
are an error.
-/

namespace SnippetRunner.Http

/-- A digit: a decimal one, or a small raised one of the Latin letters. -/
def isDigit (c : Char) : Bool :=
  (Text.decimalValue? c).isSome || c == '\xb9' || c == '\xb2' || c == '\xb3'

/-- The length that a header gives, if it is made of digits. -/
def givenLength (header : Option String) : Except Problem (Option Int) :=
  match header with
  | none => .ok none
  | some s =>
    if s.isEmpty || ! s.toList.all isDigit then .ok none
    else match Number.readInt s with
      | .ok n => .ok (some n)
      | .error fault => .error ⟨"ValueError", fault.complaint 10 s⟩

/-- The response to a request whose body is too long. -/
def tooLong (most : Data) : Except Problem Response :=
  return refuse 413 s!"Request body exceeds {← most.print} bytes"

/-- The response that turns a request away, if its body is too long. -/
def checkLength (most : Data) (r : Request) : Except Problem (Option Response) := do
  match ← givenLength (r.header? "content-length") with
  | none => return none
  | some n =>
    if ← Data.compared ">" (· == .gt) (.int n) most then return some (← tooLong most)
    else return none

/-- Who answers a request. -/
inductive Route where
  | run
  | runShort
  | dialects
  | echo
  | alive
  /-- A page about the routes. -/
  | manual (page : Manual.Page)
  deriving Repr, DecidableEq

/-- The paths of the routes. -/
def routes : List (String × Route) :=
  [("/api/run", .run), ("/api/runTemp", .runShort), ("/api/dialects", .dialects),
    ("/api/echo", .echo), ("/healthz", .alive), ("/openapi.json", .manual .description),
    ("/docs", .manual .explorer), ("/docs/oauth2-redirect", .manual .signIn),
    ("/redoc", .manual .overview)]

/-- The methods that a route answers to. -/
def Route.methods : Route → List String
  | .dialects | .alive => ["GET"]
  | .manual _ => ["GET", "HEAD"]
  | _ => ["POST"]

/-- A path without a slash at its end, or with one. -/
def otherPath (path : String) : String :=
  if path.endsWith "/" then String.ofList (path.toList.reverse.dropWhile (· == '/')).reverse
  else path ++ "/"

/-- A server. -/
structure Server (κ π ν σ χ : Type) where
  engine : Engine κ π ν σ χ
  /-- The greatest length of a body. -/
  maxBody : Data
  /-- The packages that can be found besides those of the host. -/
  installed : List String := []

variable {κ π ν σ χ : Type}

namespace Server

/-- Runs what a request asks for. -/
def runPayload (s : Server κ π ν σ χ) (payload : RunPayload) (p : Process σ χ) :
    Except Problem SnippetRunner.Response × Process σ χ :=
  let (answered, p) := s.engine.execute
    { dialect := .text payload.dialect, source := .text payload.code
      deadline := payload.deadline } p
  (answered.outcome.map Outcome.toResponse, p)

/-- A run's result as a document. -/
def runResponse (r : SnippetRunner.Response) : Response :=
  ⟨200, .json (object [("status", .text r.status.name), ("text", .text r.text)])⟩

/-- A run's result as its text alone. -/
def shortResponse (r : SnippetRunner.Response) : Response :=
  ⟨if r.status = .dependencyMissing then 400 else 200, .text r.text⟩

/-- Answers with the result of a run, or with complaints. -/
def answerRun (s : Server κ π ν σ χ) (payload : Except (List Complaint) RunPayload)
    (shape : SnippetRunner.Response → Response) (p : Process σ χ) :
    Except Problem Response × Process σ χ :=
  match payload with
  | .error list => (complain list, p)
  | .ok payload =>
    let (result, p) := s.runPayload payload p
    (result.map shape, p)

/-- The problem of a value that cannot be part of a response. -/
def unwritable (reason : String) : Problem :=
  ⟨"PydanticSerializationError", "Error serializing to JSON: " ++ reason⟩

/-- The response that repeats what came. -/
def echoResponse (received : Received) : Except Problem Response := do
  let got ← match received with
    | .nothing => pure .null
    | .document v =>
      if responseDepth < depth v then
        throw (unwritable "ValueError: Maximum serialization depth exceeded")
      if let some complaint := unwritableText? v then
        throw (unwritable ("UnicodeEncodeError: " ++ complaint))
      pure (finite v)
    | .other bytes =>
      match Text.decodeUtf8 bytes with
      | .ok s => pure (.text s)
      | .error e => throw (unwritable
        s!"invalid utf-8 sequence of {e.length} bytes from index {e.position}")
  return ⟨200, .json (object [("ok", .bool true), ("got", got)])⟩

/-- The response with the health of the dialects. -/
def dialectsResponse (s : Server κ π ν σ χ) (p : Process σ χ) : Except Problem Response := do
  let list ← health s.installed p.handles
  return ⟨200, .json (.list (list.map fun h =>
    object [("dialect", .text h.dialect.name), ("available", .bool h.available),
      ("detail", .text h.detail)]))⟩

/-- Answers a request that came to a route by the right method. -/
def answerRoute (s : Server κ π ν σ χ) (route : Route) (r : Request) (p : Process σ χ) :
    Except Problem Response × Process σ χ :=
  match route with
  | .alive => (.ok ⟨200, .text "ok"⟩, p)
  | .manual page => (.ok ⟨200, page.content⟩, p)
  | .dialects => (s.dialectsResponse p, p)
  | _ =>
    match r.received with
    | .error fault => (fault.response, p)
    | .ok received =>
      match route with
      | .echo => (echoResponse received, p)
      | .runShort => s.answerRun (RunPayload.ofShort received) shortResponse p
      | _ => s.answerRun (RunPayload.ofReceived received) runResponse p

/-- Answers a request whose body is not too long. -/
def dispatch (s : Server κ π ν σ χ) (r : Request) (p : Process σ χ) :
    Except Problem Response × Process σ χ :=
  match routes.lookup r.path with
  | some route =>
    if route.methods.contains r.method then s.answerRoute route r p
    else (.ok (refuse 405 "Method Not Allowed"), p)
  | none =>
    if r.path != "/" && (routes.lookup (otherPath r.path)).isSome then (.ok ⟨307, .nothing⟩, p)
    else (.ok (refuse 404 "Not Found"), p)

/-- Answers a request. -/
def answer (s : Server κ π ν σ χ) (r : Request) (p : Process σ χ) :
    Except Problem Response × Process σ χ :=
  match r.headerProblem? with
  | some problem => (.error problem, p)
  | none =>
    match checkLength s.maxBody r with
    | .error problem => (.error problem, p)
    | .ok (some response) => (.ok response, p)
    | .ok none => s.dispatch r p

end Server

end SnippetRunner.Http
