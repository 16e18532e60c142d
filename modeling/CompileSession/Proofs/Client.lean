import CompileSession.Client
import CompileSession.Proofs.Markers
import CompileSession.Proofs.Session.History
import CompileSession.Store.Memory

/-!
# Settling one's own submission

`Client.compile` takes deliveries until the one for its own request. A session that was just
submitted is pending on that request alone, so what is taken on the way changes nothing at all: it
could as well not have arrived. What comes after the delivery waited for is left for later.

Results:
1. `Desk.deliver_of_not_pending`: a delivery for a request that is not pending changes nothing.
2. `Client.settle_skipped`: nor do any number of them, while their like is waited for.
3. `Client.compile_of_queue`: compiling comes to a submission and the one delivery for it.
4. `Client.compile_settles_own`: what it comes to, by the kind of that delivery.
-/

namespace CompileSession

namespace Session

/-- A delivery for a request that is not pending is dropped, and nothing is noted. -/
theorem deliver_of_not_pending {s : Session} {id : RequestId} (h : s.status ≠ .pending id)
    (delivery : Delivery) : s.deliver id delivery = s ∧ s.deliverWarnings id delivery = [] := by
  have hawaits : ¬ s.awaits id = true := fun ha => h ((s.awaits_iff id).1 ha)
  cases delivery with
  | response r => exact ⟨receive_of_not_pending h r, if_neg hawaits⟩
  | failed e => exact ⟨rfl, if_neg hawaits⟩

/-- A response that was awaited leads to a success or a failure. -/
theorem accept_status (s : Session) (r : Response) :
    (s.accept r).status = .succeeded ∨ ∃ why, (s.accept r).status = .failed why := by
  obtain e | (artifact | ds | message) := r
  · exact .inr ⟨.protocol, rfl⟩
  · exact .inl rfl
  · exact .inr ⟨.compileErrors, rfl⟩
  · exact .inr ⟨.serverException, rfl⟩

/-- Whoever put annotations into the pane, a submission takes them out. -/
theorem submit_annotations (flags : Flags) (s : Session) :
    (s.submit flags).pane.annotations = [] := by
  show (s.overlay.clear s.pane).annotations = []
  rw [Overlay.clear_eq]

end Session

namespace Desk

variable {σ : Type} {d : Desk σ}

theorem deliver_of_not_pending {id : RequestId} (h : d.session.status ≠ .pending id)
    (delivery : Delivery) : d.deliver id delivery = d := by
  obtain ⟨hsession, hwarnings⟩ := Session.deliver_of_not_pending h delivery
  unfold deliver note within
  rw [hsession, hwarnings, List.append_nil]

end Desk

namespace Client

variable {σ : Type}

/-- While a request is pending, deliveries for others are taken without any effect. -/
theorem settle_skipped {id : RequestId} {d : Desk σ} (hpending : d.session.status = .pending id)
    {skipped : List Tagged} (hothers : ∀ x ∈ skipped, x.1 ≠ id) (queue : List Tagged) :
    settle id d (skipped ++ queue) = settle id d queue := by
  induction skipped with
  | nil => rfl
  | cons x skipped ih =>
    obtain ⟨other, delivery⟩ := x
    have hne : other ≠ id := hothers (other, delivery) List.mem_cons_self
    have hnot : d.session.status ≠ .pending other := by
      rw [hpending]
      exact fun h => hne (Status.pending.inj h).symm
    rw [List.cons_append, settle, Desk.deliver_of_not_pending hnot, if_neg hne]
    exact ih fun y hy => hothers y (List.mem_cons_of_mem _ hy)

/-- The delivery for the request ends the waiting, and those behind it stay in the queue. -/
theorem settle_own (id : RequestId) (d : Desk σ) (delivery : Delivery) (rest : List Tagged) :
    settle id d ((id, delivery) :: rest) =
      (⟨d.deliver id delivery, rest⟩, settledBy delivery (d.deliver id delivery)) :=
  if_pos rfl

variable [KeyValue σ]

/-- Compiling comes to a submission and the first delivery for it. -/
theorem compile_of_queue {c : Client σ} {arriving skipped rest : List Tagged} {delivery : Delivery}
    (hqueue : c.queue ++ arriving = skipped ++ (c.desk.session.nextRequest, delivery) :: rest)
    (hothers : ∀ x ∈ skipped, x.1 ≠ c.desk.session.nextRequest) (flags : Flags) :
    let d := (c.desk.submit flags).deliver c.desk.session.nextRequest delivery
    c.compile flags arriving = (⟨d, rest⟩, settledBy delivery d) := by
  have hpending : (c.desk.submit flags).session.status = .pending c.desk.session.nextRequest := rfl
  unfold compile
  rw [hqueue, settle_skipped hpending hothers, settle_own]

/-- Compiling settles its own submission and nothing else, whatever happened at the client before:
earlier requests may be under way, or pending for good because they were lost. Of the deliveries
those up to the first one for the new request are taken, and the others stay in the queue. The desk
comes to what the submission and that one delivery make of it. If it is a response, the session is
in the state that is told, a success or a failure; if the request was lost, that is told, and the
session goes on waiting, with nothing logged or annotated and the run gate closed. -/
theorem compile_settles_own (c : Client σ) (flags : Flags) (arriving : List Tagged)
    (skipped rest : List Tagged) (delivery : Delivery)
    (hqueue : c.queue ++ arriving = skipped ++ (c.desk.session.nextRequest, delivery) :: rest)
    (hothers : ∀ x ∈ skipped, x.1 ≠ c.desk.session.nextRequest) :
    let id := c.desk.session.nextRequest
    let d := (c.desk.submit flags).deliver id delivery
    (c.compile flags arriving).1 = ⟨d, rest⟩ ∧
    (∀ r, delivery = .response r →
      (c.compile flags arriving).2 = .ok d.session.status ∧
        (d.session.status = .succeeded ∨ ∃ why, d.session.status = .failed why)) ∧
    (∀ e, delivery = .failed e →
      (c.compile flags arriving).2 = .error e ∧ d.session.status = .pending id ∧
        d.session.log = [] ∧ d.session.pane.annotations = [] ∧ d.session.armed = false) := by
  intro id d
  have hpending : (c.desk.submit flags).session.status = .pending id := rfl
  rw [show c.compile flags arriving = (⟨d, rest⟩, settledBy delivery d) from
    compile_of_queue hqueue hothers flags]
  refine ⟨rfl, ?_, ?_⟩
  · rintro r rfl
    have hd : d.session = (c.desk.submit flags).session.clearView.accept r :=
      Session.receive_of_pending hpending r
    refine ⟨rfl, ?_⟩
    rw [hd]
    exact Session.accept_status _ r
  · rintro e rfl
    exact ⟨rfl, rfl, rfl, Session.submit_annotations flags c.desk.session, rfl⟩

end Client

/-- A client whose first request was lost, with late answers to it in its queue. -/
def stranded : Client Memory where
  desk :=
    ((Desk.start (.ofText "") (some Memory.empty)).submit ⟨false, false⟩).deliver 1
      (.failed .timeout)
  queue := [(1, .response (.ok (.success "late()"))), (1, .response (.ok (.success "again()")))]

/-- The second request of the client is lost as well, and the third one is answered. -/
theorem compile_settles_own_stranded :
    let lost := stranded.compile ⟨true, false⟩ [(2, .failed .timeout), (1, .failed .closed)]
    let served := lost.1.compile ⟨true, true⟩
      [(2, .failed .closed), (3, .response (.ok (.errors []))), (3, .failed .closed)]
    stranded.desk.session.status = .pending 1 ∧
      lost.2 = .error .timeout ∧ lost.1.desk.session.status = .pending 2 ∧
      lost.1.queue = [(1, .failed .closed)] ∧
      served.2 = .ok (.failed .compileErrors) ∧ served.1.queue = [(3, .failed .closed)] := by
  intro lost served
  obtain ⟨hlost, -, hfailed⟩ := stranded.compile_settles_own ⟨true, false⟩
    [(2, .failed .timeout), (1, .failed .closed)] stranded.queue [(1, .failed .closed)]
    (.failed .timeout) rfl (by decide)
  obtain ⟨herror, hpending, -⟩ := hfailed .timeout rfl
  obtain ⟨hserved, hresponse, -⟩ := lost.1.compile_settles_own ⟨true, true⟩
    [(2, .failed .closed), (3, .response (.ok (.errors []))), (3, .failed .closed)]
    [(1, .failed .closed), (2, .failed .closed)] [(3, .failed .closed)]
    (.response (.ok (.errors []))) rfl (by decide)
  obtain ⟨hstatus, -⟩ := hresponse _ rfl
  refine ⟨rfl, herror, ?_, congrArg Client.queue hlost, hstatus, congrArg Client.queue hserved⟩
  exact (congrArg (·.desk.session.status) hlost).trans hpending

end CompileSession
