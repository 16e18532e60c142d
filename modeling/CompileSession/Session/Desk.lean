import CompileSession.Response.Decode
import CompileSession.Session.Delivery
import CompileSession.Store.Saved

/-!
# A session at work

A desk is a session together with what it works with: the store that it saves to, the requests
handed over for sending, the programs handed over for running, and the warnings noted. Sending and
running themselves happen elsewhere, so the desk keeps them as lists, oldest first.
-/

namespace CompileSession

/-- A session and what it works with. -/
structure Desk (σ : Type) where
  session : Session
  store : SessionStore σ
  sent : List (RequestId × Request)
  runs : List (String × String)
  warnings : List Warning

namespace Desk

variable {σ : Type} [KeyValue σ]

/-- The desk with further warnings. -/
def note (more : List Warning) (d : Desk σ) : Desk σ := { d with warnings := d.warnings ++ more }

/-- A desk for the session saved in the store, or for the default document. -/
def start (pane : Pane) (store : SessionStore σ) : Desk σ where
  session :=
    match store.load.1 with
    | some saved => .start saved.code saved.verify pane
    | none => .start defaultDocument false pane
  store := store
  sent := []
  runs := []
  warnings := store.load.2

/-- A new session over what the desk works with, as after a restart. -/
def restart (d : Desk σ) : Desk σ :=
  let fresh := Desk.start d.session.pane d.store
  { d with session := fresh.session }.note fresh.warnings

/-- A desk loads from its store and leaves it as it is. -/
@[simp]
theorem start_store (pane : Pane) (store : SessionStore σ) : (start pane store).store = store := rfl

@[simp]
theorem restart_store (d : Desk σ) : d.restart.store = d.store := rfl

/-- Changes the session alone. -/
def within (change : Session → Session) (d : Desk σ) : Desk σ :=
  { d with session := change d.session }

/-- Submits the text of the pane: saves it, then hands the request over for sending. -/
def submit (flags : Flags) (d : Desk σ) : Desk σ :=
  let session := d.session.submit flags
  let saved := d.store.save ⟨session.document.text, flags.verify⟩
  { d with
    session := session
    store := saved.1
    sent := d.sent ++ [(d.session.nextRequest, session.request)] }.note saved.2

/-- Submits the text of the pane with the flags set last. -/
def compile (d : Desk σ) : Desk σ := d.submit d.session.flags

/-- Takes a delivery for request `id`. -/
def deliver (id : RequestId) (delivery : Delivery) (d : Desk σ) : Desk σ :=
  (d.within (Session.deliver id delivery)).note (d.session.deliverWarnings id delivery)

/-- The response that a body makes, and the warnings of decoding it. -/
def decodeBody (body : String) : Response × List Warning :=
  match Decoded.ofText body with
  | .ok decoded => (.ok decoded.outcome, decoded.warnings)
  | .error e => (.error e, [])

/-- Decodes the body of an answer to request `id` and takes it. -/
def takeBody (id : RequestId) (body : String) (d : Desk σ) : Desk σ :=
  (d.note (decodeBody body).2).deliver id (.response (decodeBody body).1)

/-- Hands the program over for running, if one may be run, and tells what comes of it. -/
def run (sink : String → String → Except ExecutionError Unit) (d : Desk σ) :
    Desk σ × Except ExecutionError RunOutcome :=
  match d.session.runnable with
  | none => (d, .ok .disarmed)
  | some artifact =>
    ({ d with runs := d.runs ++ [(artifact, entryPoint)] },
      (sink artifact entryPoint).map fun _ => .executed)

end Desk

end CompileSession
