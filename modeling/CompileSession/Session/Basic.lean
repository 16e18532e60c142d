import CompileSession.Overlay
import CompileSession.Request.Basic
import CompileSession.Response.Outcome
import CompileSession.Warning

/-!
# The compile session

One document, edited in a pane and submitted to the compiler again and again. A session is always
in one of four states: idle, waiting for the answer to its latest request, succeeded, or failed.
Requests are numbered upwards, and only the answer to the latest one, while it is awaited, has any
effect; whatever else arrives is dropped.

What the session does to the world outside, such as sending and saving, is not here: the functions
below say what becomes of the session itself.
-/

namespace CompileSession

/-- The source text, and whether it changed since it was submitted last. -/
structure Document where
  text : String
  dirty : Bool
deriving DecidableEq, Repr

/-- The document of a session that was never saved. -/
def defaultDocument : String :=
  "import std::io\nimport std::ascii\n\nmethod main():\n    io::println(\"hello world\")"

/-- Why the last answer was no success. -/
inductive Failure where
  | compileErrors
  | serverException
  | protocol
deriving DecidableEq, Repr

/-- The state of a session. -/
inductive Status where
  /-- nothing is awaited and nothing is shown -/
  | idle
  /-- the answer to a request is awaited -/
  | pending (id : RequestId)
  | succeeded
  | failed (why : Failure)
deriving DecidableEq, Repr

/-- The state after an edit: what is awaited stays awaited, what is over is forgotten. -/
def Status.afterEdit : Status → Status
  | .pending id => .pending id
  | _ => .idle

/-- An answer as the session gets it: understood or of no use. -/
abbrev Response := Except ResponseError Outcome

/-- A compile session. -/
structure Session where
  pane : Pane
  document : Document
  flags : Flags
  log : Log
  overlay : Overlay
  lastIssued : Option RequestId
  status : Status
  artifact : Option String
  armed : Bool
deriving DecidableEq, Repr

namespace Session

/-- The session that starts with the given document in the given pane. -/
def start (code : String) (verify : Bool) (p : Pane) : Session where
  pane := p.setText code
  document := ⟨code, false⟩
  flags := ⟨verify, false⟩
  log := []
  overlay := .empty
  lastIssued := none
  status := .idle
  artifact := none
  armed := false

/-- The session with nothing drawn and an empty log. -/
def clearView (s : Session) : Session :=
  { s with pane := s.overlay.clear s.pane, overlay := .empty, log := [] }

/-- Changes the pane, as its owner does. The session is not told. -/
def host (change : Pane → Pane) (s : Session) : Session := { s with pane := change s.pane }

/-! ## Editing -/

/-- The document after taking notice of the text of the pane. -/
def noticed (s : Session) : Document :=
  if s.pane.text = s.document.text then s.document else ⟨s.pane.text, true⟩

/-- Takes notice of the text of the pane. Nothing drawn or logged stays, and the program of the
last success may no longer be run. -/
def onEdit (s : Session) : Session :=
  { s.clearView with document := s.noticed, armed := false, status := s.status.afterEdit }

/-- Replaces the text of the pane and takes notice of it. -/
def edit (text : String) (s : Session) : Session := (s.host (Pane.setText text)).onEdit

/-- Sets the flags for later requests. -/
def setFlags (flags : Flags) (s : Session) : Session := { s with flags := flags }

/-! ## Submitting -/

/-- The number of the next request. -/
def nextRequest (s : Session) : RequestId :=
  match s.lastIssued with
  | none => firstRequest
  | some id => id + 1

/-- Submits the text of the pane with the given flags. A request still awaited is superseded. -/
def submit (flags : Flags) (s : Session) : Session :=
  { s.clearView with
    flags := flags
    document := ⟨s.pane.text, false⟩
    artifact := none
    armed := false
    lastIssued := some s.nextRequest
    status := .pending s.nextRequest }

/-- The request that a session just submitted sends. -/
def request (s : Session) : Request := .of s.document.text s.flags

/-! ## Receiving -/

/-- Whether the answer to request `id` is awaited. -/
def awaits (id : RequestId) (s : Session) : Bool := s.status == .pending id

/-- The message about a diagnostic that has a place. -/
def errorMessage (d : Diagnostic) : Message := ⟨.error, "Compilation failed: " ++ d.displayText⟩

/-- The session after a response of no success. -/
def fail (why : Failure) (log : Log) (s : Session) : Session :=
  { s with artifact := none, armed := false, log := log, status := .failed why }

/-- The session after the response that it awaited, with the view cleared before. -/
def accept (s : Session) : Response → Session
  | .ok (.success artifact) =>
    { s with
      artifact := some artifact
      armed := true
      log := s.log.append .success "Compiled successfully!"
      status := .succeeded }
  | .ok (.errors ds) =>
    let drawing := s.overlay.draw s.pane s.log ds
    { s with pane := drawing.pane, overlay := drawing.overlay }.fail .compileErrors
      (drawing.log ++ (ds.filter Diagnostic.positioned).map errorMessage)
  | .ok (.exception message) =>
    s.fail .serverException (s.log.append .error ("Internal failure: " ++ message))
  | .error e => s.fail .protocol (s.log.append .error ("Protocol error: " ++ e.message))

/-- The session after a response to request `id`. -/
def receive (id : RequestId) (r : Response) (s : Session) : Session :=
  if s.awaits id then s.clearView.accept r else s

/-- What is noted about a response that was awaited. -/
def responseWarnings : Response → List Warning
  | .ok (.exception _) => [.exceptionRaised]
  | .error _ => [.responseUnusable]
  | _ => []

/-- What is noted about a response to request `id`. -/
def receiveWarnings (id : RequestId) (r : Response) (s : Session) : List Warning :=
  if s.awaits id then responseWarnings r else []

/-- What is noted when request `id` failed on its way. The session itself goes on waiting. -/
def failureWarnings (id : RequestId) (s : Session) : List Warning :=
  if s.awaits id then [.requestFailed] else []

/-! ## Running -/

/-- The program that may be run. -/
def runnable (s : Session) : Option String := if s.armed then s.artifact else none

end Session

end CompileSession
