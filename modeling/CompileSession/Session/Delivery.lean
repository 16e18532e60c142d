import CompileSession.Session.Basic

/-!
# Deliveries and runs

What comes back for a request, and what comes of running a program. A request that is lost on its
way is delivered as a failure, so that every request is delivered exactly once.
-/

namespace CompileSession

/-- Why a request was not answered. -/
inductive TransportError where
  | request (message : String)
  | timeout
  | closed
deriving DecidableEq, Repr

/-- The text of a transport error. -/
def TransportError.message : TransportError → String
  | .request message => "request failed: " ++ message
  | .timeout => "request timed out"
  | .closed => "delivery channel closed"

/-- What comes back for a request. -/
inductive Delivery where
  | response (response : Response)
  | failed (error : TransportError)

/-- Why a program was not run to a good end. -/
inductive ExecutionError where
  | io (message : String)
  | spawn (program : String) (message : String)
  | failed (status : String)
deriving DecidableEq, Repr

/-- The text of an execution error. -/
def ExecutionError.message : ExecutionError → String
  | .io message => "I/O error: " ++ message
  | .spawn program message => "failed to start '" ++ program ++ "': " ++ message
  | .failed status => "artifact exited with " ++ status

/-- The function that is called to run a program. -/
def entryPoint : String := "main"

/-- What comes of asking for a run. -/
inductive RunOutcome where
  | executed
  /-- no program may be run, so none was -/
  | disarmed
deriving DecidableEq, Repr

namespace Session

/-- The session after a delivery for request `id`. -/
def deliver (id : RequestId) (d : Delivery) (s : Session) : Session :=
  match d with
  | .response r => s.receive id r
  | .failed _ => s

/-- What is noted about a delivery for request `id`. -/
def deliverWarnings (id : RequestId) (d : Delivery) (s : Session) : List Warning :=
  match d with
  | .response r => s.receiveWarnings id r
  | .failed _ => s.failureWarnings id

end Session

end CompileSession
