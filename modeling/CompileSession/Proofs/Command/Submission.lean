import CompileSession.Command.Invocation
import CompileSession.Proofs.Store.Kept

/-!
# One order and its submission

An order to compile submits one request, if its source can be read. What is asked for follows from
the order and the session saved last, and neither the network nor the system that runs programs has
a part in it: the session is saved before the request is sent, and nothing that comes of it is.

Results:
1. `Client.settle_desk`: settling a request submits and saves nothing.
2. `CompileOrder.opened_request`: what an order asks for, over any store.
3. `CompileOrder.carryOut_dispatches`: the request that is told to be sent is the one posted.
4. `CompileOrder.carryOut_of_text`: what an order submits and saves.
-/

namespace CompileSession

/-- Taking deliveries leaves the store and the requests sent as they are. -/
theorem Client.settle_desk {σ : Type} [KeyValue σ] (id : RequestId) (d : Desk σ)
    (queue : List Tagged) :
    (settle id d queue).1.desk.store = d.store ∧ (settle id d queue).1.desk.sent = d.sent := by
  induction queue generalizing d with
  | nil => exact ⟨rfl, rfl⟩
  | cons delivery rest ih =>
    obtain ⟨other, delivery⟩ := delivery
    unfold settle
    by_cases h : other = id
    · rw [if_pos h]
      exact ⟨rfl, rfl⟩
    · rw [if_neg h]
      exact ih (d.deliver other delivery)

namespace CompileOrder

/-- What an order submits and saves, given the text of its file, if it names one, and the session
saved last. -/
def submission (o : CompileOrder) (text : Option String) (last : Option Saved) : Saved where
  code := (text <|> last.map Saved.code).getD defaultDocument
  verify := (o.verify <|> last.map Saved.verify).getD false

/-- The request that carries a submission of an order. -/
def requestOf (o : CompileOrder) (s : Saved) : Request := ⟨s.code, s.verify, o.counterexamples⟩

/-- The session that an order starts with: the document to submit, and whether the last one was
verified. No request was made yet, and nothing came of any. -/
theorem opened_session {σ : Type} [KeyValue σ] (store : SessionStore σ) (text : Option String) :
    let c := opened store text
    let last := store.load.1
    c.desk.session.pane.text = (text <|> last.map Saved.code).getD defaultDocument ∧
      c.desk.session.flags.verify = (last.map Saved.verify).getD false ∧
      c.desk.session.nextRequest = firstRequest ∧
      c.desk.store = store ∧ c.desk.sent = [] ∧ c.desk.runs = [] ∧ c.queue = [] := by
  intro c last
  have hstart : (Desk.start (.ofText "") store).session =
      .start ((last.map Saved.code).getD defaultDocument) ((last.map Saved.verify).getD false)
        (.ofText "") := by
    unfold Desk.start
    cases hload : store.load.1 <;> simp only [last, hload] <;> rfl
  -- an edit replaces the text, and leaves the flags and the numbers of requests
  cases text with
  | none =>
    have hc : c.desk.session = (Desk.start (.ofText "") store).session := rfl
    rw [hc, hstart]
    cases last <;> exact ⟨rfl, rfl, rfl, rfl, rfl, rfl, rfl⟩
  | some text =>
    have hc : c.desk.session = (Desk.start (.ofText "") store).session.edit text := rfl
    rw [hc, hstart]
    exact ⟨rfl, rfl, rfl, rfl, rfl, rfl, rfl⟩

/-- What an order asks for follows from its words, its source and the session saved last. -/
theorem opened_request {σ : Type} [KeyValue σ] (o : CompileOrder) (store : SessionStore σ)
    (text : Option String) :
    let s := (opened store text).desk.session
    Request.of s.pane.text (o.flags s.flags) =
      o.requestOf (o.submission text store.load.1) := by
  intro s
  obtain ⟨htext, hverify, -⟩ := opened_session store text
  have hflags : o.flags s.flags =
      ⟨(o.submission text store.load.1).verify, o.counterexamples⟩ := by
    show (⟨o.verify.getD s.flags.verify, _⟩ : Flags) = ⟨(o.verify <|> _).getD false, _⟩
    rw [hverify]
    cases o.verify <;> rfl
  rw [hflags, htext]
  rfl

/-! ## What is sent -/

section
variable {σ : Type} [KeyValue σ] (o : CompileOrder) (config : Config)
variable (store : SessionStore σ) (text : Option String)

/-- An order hands over one request, and that request is posted over the network: the delivery that
is waited for is what comes of it. The session is saved as it is submitted. -/
theorem submit_dispatches (network : Network) :
    let c := opened store text
    let s := o.submission text store.load.1
    let delivery := (config.dispatch network (o.requestOf s)).1
    let r := o.submit config network c
    r = c.compile (o.flags c.desk.session.flags) [(firstRequest, delivery)] ∧
      r.1.desk.sent = [(firstRequest, o.requestOf s)] ∧ r.1.desk.store = (store.save s).1 := by
  intro c s delivery r
  obtain ⟨-, -, hnumber, hstore, hsent, -⟩ := opened_session store text
  let first := c.desk.session
  have hrequest : Request.of first.pane.text (o.flags first.flags) = o.requestOf s :=
    opened_request o store text
  have hcompile : r = c.compile (o.flags first.flags) [(firstRequest, delivery)] := by
    show c.compile (o.flags first.flags) [(first.nextRequest,
      (config.dispatch network (Request.of first.pane.text (o.flags first.flags))).1)] = _
    rw [hrequest, hnumber]
  -- while the request is settled nothing is sent or saved
  obtain ⟨hsettledStore, hsettledSent⟩ := Client.settle_desk first.nextRequest
    (c.desk.submit (o.flags first.flags)) (c.queue ++ [(firstRequest, delivery)])
  refine ⟨hcompile, ?_, ?_⟩
  · rw [hcompile]
    refine hsettledSent.trans ?_
    show c.desk.sent ++
      [(first.nextRequest, Request.of first.pane.text (o.flags first.flags))] = _
    rw [hsent, hnumber, hrequest]
    rfl
  · have hsaved : (⟨first.pane.text, (o.flags first.flags).verify⟩ : Saved) = s :=
      congrArg (fun r : Request => (⟨r.code, r.verify⟩ : Saved)) hrequest
    rw [hcompile]
    refine hsettledStore.trans ?_
    show (c.desk.store.save ⟨first.pane.text, (o.flags first.flags).verify⟩).1 = _
    rw [hstore, hsaved]

/-- An order whose source can be read is carried out by its submission. -/
theorem carryOut_eq (around : Surroundings) :
    o.carryOut config around (text.map .ok) store =
      carryOut.finish o config around (o.submit config around.network (opened store text)) := by
  cases text <;> rfl

/-- The request that a run of the program tells to have sent is the one that is posted over the
network, and what the run comes to is what comes of that request. -/
theorem carryOut_dispatches (around : Surroundings) :
    let c := opened store text
    let s := o.submission text store.load.1
    let delivery := (config.dispatch around.network (o.requestOf s)).1
    let r := o.carryOut config around (text.map .ok) store
    r = carryOut.finish o config around
        (c.compile (o.flags c.desk.session.flags) [(firstRequest, delivery)]) ∧
      r.1.sent = [(firstRequest, o.requestOf s)] ∧ r.2 = (store.save s).1 := by
  intro c s delivery r
  obtain ⟨hcompile, hsent, hstore⟩ := submit_dispatches o config store text around.network
  have hr : r = carryOut.finish o config around (o.submit config around.network c) :=
    carryOut_eq o config store text around
  rw [hr]
  exact ⟨congrArg (carryOut.finish o config around) hcompile, hsent, hstore⟩

end

section
variable {c : Connection} {rows : List Row} {last : Option Saved}

/-- An order whose source can be read submits one request and saves what it submits, whatever comes
of the request. -/
theorem carryOut_of_text (h : c.Holds rows last) (o : CompileOrder) (config : Config)
    (around : Surroundings) (text : Option String) :
    let s := o.submission text last
    let r := o.carryOut config around (text.map .ok) (some c)
    r.1.sent = [(firstRequest, o.requestOf s)] ∧
      ∃ c' : Connection, r.2 = some c' ∧
        c'.Holds (Database.upsert Saved.key s.document rows) (some s) := by
  intro s r
  obtain ⟨-, hsent, hstore⟩ := carryOut_dispatches o config (some c) text around
  rw [h.load] at hsent hstore
  obtain ⟨c', hsave, hholds⟩ := h.save s
  exact ⟨hsent, c', hstore.trans (congrArg Prod.fst hsave), hholds⟩

end

end CompileOrder

end CompileSession
