import CompileSession.Proofs.Session.History
import CompileSession.Store.Memory

/-!
# Deliveries without effect

Most of what is delivered to a session may be of no use: responses to requests superseded long ago
or never made, second responses, and failures. `erase` takes all of it out of a history and keeps
the first response to each request that came while that request was the latest.

Results:
1. `after_erase`: a history and what `erase` leaves of it lead to the same session, the same store
   and the same requests and runs. Of the deliveries only those kept have an effect, at most one for
   each request, and only while the session is pending on it.
2. `eraseByNumber_changes`: a response is the first one only if it is counted from the submission of
   its request on. A history may bring a response for a number that is not given out yet; it is
   dropped and forgotten, and the next response with that number counts.
-/

namespace CompileSession

namespace History

/-- Whether a step stays when what has no effect is erased. Of the deliveries only a response to the
latest request does, and only the first one since it was submitted. -/
def stays (past : List Step) (s : Step) : Bool :=
  match s.arrival? with
  | none => true
  | some (_, .failed _) => false
  | some (id, .response _) => Awaits past id

/-- A history without the deliveries that have no effect. -/
def erase (history : List Step) : List Step :=
  along (fun past s => if stays past s then some s else none) [] history

theorem erase_snoc (past : List Step) (s : Step) :
    erase (past ++ [s]) = erase past ++ if stays past s then [s] else [] := by
  rw [erase, along_snoc, List.nil_append, ← erase]
  cases stays past s <;> rfl

/-- The numbers of the requests that the deliveries of a history name. -/
def arrivals (history : List Step) : List RequestId := (history.filterMap Step.arrival?).map (·.1)

theorem arrivals_append (first second : List Step) :
    arrivals (first ++ second) = arrivals first ++ arrivals second := by
  simp [arrivals]

theorem not_submits_of_arrival {s : Step} {id : RequestId} {delivery : Delivery}
    (h : s.arrival? = some (id, delivery)) : s.submits = false := by
  cases s with
  | deliver | body => rfl
  | _ => cases h

theorem answers_of_arrival {s : Step} {id : RequestId} {r : Response}
    (h : s.arrival? = some (id, .response r)) : s.response? = some (id, r) := by
  cases s with
  | deliver | body => cases h; rfl
  | _ => cases h

/-- A delivery that stays is a response to the request awaited. -/
theorem awaits_of_stays {past : List Step} {s : Step} {id : RequestId} {delivery : Delivery}
    (hs : stays past s = true) (h : s.arrival? = some (id, delivery)) :
    (∃ r, delivery = .response r) ∧ Awaits past id := by
  unfold stays at hs
  rw [h] at hs
  cases delivery with
  | response r => exact ⟨⟨r, rfl⟩, of_decide_eq_true hs⟩
  | failed e => cases hs

/-- What is awaited was not answered by a delivery that stays, and those answer each request once:
a request that is answered is awaited no more, and the number of a later one is higher. -/
theorem arrivals_erase (history : List Step) :
    (arrivals (erase history)).Nodup ∧
    ∀ id ∈ arrivals (erase history), id ≤ issued history ∧ ¬ Awaits history id := by
  induction history using List.reverseRecOn with
  | nil => exact ⟨List.nodup_nil, fun id h => absurd h List.not_mem_nil⟩
  | append_singleton past s ih =>
    obtain ⟨hnodup, hold⟩ := ih
    -- what was answered before stays answered, whatever the step is
    have hkeep : ∀ id ∈ arrivals (erase past),
        id ≤ issued (past ++ [s]) ∧ ¬ Awaits (past ++ [s]) id := by
      intro id hid
      obtain ⟨hle, hnot⟩ := hold id hid
      refine ⟨Nat.le_trans hle (issued_le_snoc past s), fun ha => ?_⟩
      cases hs : s.submits with
      | true =>
        rw [awaits_snoc_of_submits hs] at ha
        exact Nat.not_succ_le_self _ (ha ▸ hle)
      | false => exact hnot ((awaits_snoc_of_not_submits hs past id).1 ha).1
    rw [erase_snoc]
    cases hst : stays past s with
    | false =>
      rw [if_neg Bool.false_ne_true, List.append_nil]
      exact ⟨hnodup, hkeep⟩
    | true =>
      rw [if_pos rfl, arrivals_append]
      cases harr : s.arrival? with
      | none =>
        have hnone : arrivals [s] = [] := by simp [arrivals, harr]
        rw [hnone, List.append_nil]
        exact ⟨hnodup, hkeep⟩
      | some arrival =>
        obtain ⟨id, delivery⟩ := arrival
        have hone : arrivals [s] = [id] := by simp [arrivals, harr]
        obtain ⟨⟨r, rfl⟩, haw⟩ := awaits_of_stays hst harr
        have hsub := not_submits_of_arrival harr
        have hans : s.answers id = true := by simp [Step.answers, answers_of_arrival harr]
        rw [hone]
        refine ⟨List.nodup_append.2 ⟨hnodup, List.pairwise_singleton _ id, ?_⟩, ?_⟩
        · intro other hother id' hid' heq
          rw [List.mem_singleton] at hid'
          subst heq hid'
          exact (hold _ hother).2 haw
        · intro other hother
          rcases List.mem_append.1 hother with hother | hother
          · exact hkeep other hother
          · rw [List.mem_singleton] at hother
            subst hother
            refine ⟨Nat.le_trans (Nat.le_of_eq haw.2.1) (issued_le_snoc past s), fun ha => ?_⟩
            rw [awaits_snoc_of_not_submits hsub, hans] at ha
            exact Bool.noConfusion ha.2

end History

open History

namespace Desk

variable {σ : Type}

theorem Agrees.refl (d : Desk σ) : d.Agrees d := ⟨rfl, rfl, rfl, rfl⟩

theorem Agrees.trans {d e f : Desk σ} (h : d.Agrees e) (h' : e.Agrees f) : d.Agrees f :=
  ⟨h.session.trans h'.session, h.store.trans h'.store, h.sent.trans h'.sent, h.runs.trans h'.runs⟩

theorem Agrees.symm {d e : Desk σ} (h : d.Agrees e) : e.Agrees d :=
  ⟨h.session.symm, h.store.symm, h.sent.symm, h.runs.symm⟩

variable [KeyValue σ]

/-- No step looks at the warnings noted before. -/
theorem Agrees.take {d e : Desk σ} (h : d.Agrees e) (s : Step) : (d.take s).Agrees (e.take s) := by
  obtain ⟨session, store, sent, runs, warnings⟩ := d
  obtain ⟨session', store', sent', runs', warnings'⟩ := e
  obtain ⟨hsession, hstore, hsent, hruns⟩ := h
  dsimp only at hsession hstore hsent hruns
  subst hsession hstore hsent hruns
  cases s with
  | run sink =>
    simp only [Desk.take, Desk.run]
    split <;> exact ⟨rfl, rfl, rfl, rfl⟩
  | _ => exact ⟨rfl, rfl, rfl, rfl⟩

/-- A delivery changes the session at most. -/
theorem take_of_arrival {s : Step} {id : RequestId} {delivery : Delivery}
    (h : s.arrival? = some (id, delivery)) (d : Desk σ) :
    (d.take s).session = d.session.deliver id delivery ∧ (d.take s).store = d.store ∧
      (d.take s).sent = d.sent ∧ (d.take s).runs = d.runs := by
  cases s with
  | deliver | body => cases h; exact ⟨rfl, rfl, rfl, rfl⟩
  | _ => cases h

/-- Whether the history awaits a request is what the session shows as its status. -/
theorem status_after_iff (pane : Pane) (store : SessionStore σ) (history : List Step)
    (id : RequestId) :
    ((start pane store).after history).session.status = .pending id ↔ Awaits history id := by
  obtain ⟨code, verify, h⟩ := start_session pane store
  rw [after_session, h]
  exact Session.pending_after_iff code verify pane history id

/-- A delivery that does not stay has no effect. -/
theorem take_of_not_stays (pane : Pane) (store : SessionStore σ) {past : List Step} {s : Step}
    (h : stays past s = false) :
    (((start pane store).after past).take s).Agrees ((start pane store).after past) := by
  unfold stays at h
  cases harr : s.arrival? with
  | none =>
    rw [harr] at h
    cases h
  | some arrival =>
    obtain ⟨id, delivery⟩ := arrival
    rw [harr] at h
    obtain ⟨hsession, hstore, hsent, hruns⟩ := take_of_arrival harr ((start pane store).after past)
    refine ⟨hsession.trans ?_, hstore, hsent, hruns⟩
    cases delivery with
    | failed e => rfl
    | response r =>
      have hnot : ¬ Awaits past id := of_decide_eq_false h
      exact Session.receive_of_not_pending (mt (status_after_iff pane store past id).1 hnot) r

/-- Erasing the deliveries that come for another request than the latest, after the first response
to it, or as failures, leaves everything as it is but for the warnings. A delivery that has an
effect is a response to the request on which the session is pending, and no request has two of
them. -/
theorem after_erase (pane : Pane) (store : SessionStore σ) (history : List Step) :
    ((start pane store).after (erase history)).Agrees ((start pane store).after history) ∧
    (arrivals (erase history)).Nodup ∧
    ∀ past s id delivery, s.arrival? = some (id, delivery) →
      ¬ (((start pane store).after past).take s).Agrees ((start pane store).after past) →
      stays past s = true ∧ (∃ r, delivery = .response r) ∧
        ((start pane store).after past).session.status = .pending id := by
  refine ⟨?_, (arrivals_erase history).1, ?_⟩
  · induction history using List.reverseRecOn with
    | nil => exact Agrees.refl _
    | append_singleton past s ih =>
      rw [erase_snoc, after_snoc]
      cases h : stays past s with
      | true =>
        rw [if_pos rfl, after_snoc]
        exact ih.take s
      | false =>
        -- left out of one run, and without an effect in the other
        rw [if_neg Bool.false_ne_true, List.append_nil]
        exact ih.trans (take_of_not_stays pane store h).symm
  · intro past s id delivery harr heffect
    have hst : stays past s = true := by
      by_contra h
      exact heffect (take_of_not_stays pane store (Bool.eq_false_iff.2 h))
    obtain ⟨hresponse, haw⟩ := awaits_of_stays hst harr
    exact ⟨hst, hresponse, (status_after_iff pane store past id).2 haw⟩

end Desk

/-! ## Counting by number -/

namespace History

/-- As `stays`, but a response counts as a further one also if the first response with its number
came before the request of that number was submitted. -/
def staysByNumber (past : List Step) (s : Step) : Bool :=
  match s.arrival? with
  | none => true
  | some (_, .failed _) => false
  | some (id, .response _) =>
    0 < issued past && id == issued past && past.all fun earlier => !earlier.answers id

/-- A history without the deliveries that do not stay when they are counted by number. -/
def eraseByNumber (history : List Step) : List Step :=
  along (fun past s => if staysByNumber past s then some s else none) [] history

/-- A response that comes before its request, the request, and a response to it. -/
def earlyThenAnswered : List Step :=
  [.deliver 1 (.response (.ok (.success "early"))), .submit ⟨false, false⟩,
    .deliver 1 (.response (.ok (.success "in time")))]

end History

/-- Counted by number, the response in time is erased as the second one, and the session stays
pending; but it is the one that the session takes. -/
theorem eraseByNumber_changes :
    ¬ ∀ (pane : Pane) (store : SessionStore Memory) (history : List Step),
      ((Desk.start pane store).after (eraseByNumber history)).Agrees
        ((Desk.start pane store).after history) := by
  intro h
  have hstatus : Status.pending 1 = Status.succeeded :=
    congrArg Session.status (h (.ofText "") none earlyThenAnswered).session
  exact Status.noConfusion hstatus

end CompileSession
