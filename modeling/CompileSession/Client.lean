import CompileSession.Session.Desk

/-!
# A desk with its deliveries

Requests travel on their own, so deliveries arrive in any order and wait in a queue until they are
taken. `pump` takes the oldest one. `compile` submits and then takes deliveries until the one for
its own request: those for other requests are taken on the way, and those behind stay in the queue.
-/

namespace CompileSession

/-- A delivery and the request that it is for. -/
abbrev Tagged := RequestId × Delivery

/-- A desk, and the deliveries that arrived and were not taken yet, oldest first. -/
structure Client (σ : Type) where
  desk : Desk σ
  queue : List Tagged

namespace Client

variable {σ : Type} [KeyValue σ]

/-- A client for the session saved in the store. -/
def start (pane : Pane) (store : SessionStore σ) : Client σ := ⟨.start pane store, []⟩

/-- Changes the desk alone. -/
def atDesk (change : Desk σ → Desk σ) (c : Client σ) : Client σ := { c with desk := change c.desk }

/-- Puts deliveries that arrive behind those that wait. -/
def arrive (arriving : List Tagged) (c : Client σ) : Client σ :=
  { c with queue := c.queue ++ arriving }

/-- Takes the oldest delivery, if there is one, and tells which request it is for. -/
def pump (c : Client σ) : Client σ × Option RequestId :=
  match c.queue with
  | [] => (c, none)
  | (id, delivery) :: rest => (⟨c.desk.deliver id delivery, rest⟩, some id)

/-- What comes of waiting for a request: the state of the session, or why it never came. -/
abbrev Settled := Except TransportError Status

/-- What the delivery for a request means to the one who waits for it. -/
def settledBy (delivery : Delivery) (d : Desk σ) : Settled :=
  match delivery with
  | .response _ => .ok d.session.status
  | .failed e => .error e

/-- Takes deliveries up to the one for request `id`. If they run out before, no more will come. -/
def settle (id : RequestId) (d : Desk σ) : List Tagged → Client σ × Settled
  | [] => (⟨d, []⟩, .error .closed)
  | (other, delivery) :: rest =>
    let taken := d.deliver other delivery
    if other = id then (⟨taken, rest⟩, settledBy delivery taken) else settle id taken rest

/-- Submits the text of the pane and waits for that request, while further deliveries arrive. -/
def compile (flags : Flags) (arriving : List Tagged) (c : Client σ) : Client σ × Settled :=
  settle c.desk.session.nextRequest (c.desk.submit flags) (c.queue ++ arriving)

/-- The text of the failure to settle a request. -/
def failureMessage (e : TransportError) : String := "transport failure: " ++ e.message

end Client

end CompileSession
