import CompileSession.Session.Desk
import Mathlib.Data.List.Induction

/-!
# Histories of a session

A history is the list of the steps taken at a desk since it was started, oldest first. Steps come in
any order: edits, submissions, runs, deliveries for any request, and whatever the owner of the pane
does to it.

The definitions of the second section read a history alone and know nothing of the state of a
session. Results:
1. `after_session`: a desk takes a step to its session as the session takes it alone.
2. `take_effect`: all that one step can do to a session.
3. `lastIssued_after`: the request numbered last is the number of submissions.
4. `pending_after_iff`: a session is pending on a request exactly as long as the history awaits it.
-/

namespace CompileSession

/-! ## Steps -/

/-- What the owner of a pane may do to it. -/
inductive PaneChange where
  | setText (text : String)
  | addMarker (range : Range) (kind : MarkerClass) (severity : Severity)
  | removeMarker (id : MarkerId)
  | setAnnotations (annotations : List Annotation)
  | clearAnnotations
deriving DecidableEq, Repr

/-- The pane after a change by its owner. -/
def PaneChange.apply : PaneChange → Pane → Pane
  | .setText text => Pane.setText text
  | .addMarker range kind severity => Pane.addMarker range kind severity
  | .removeMarker id => Pane.removeMarker id
  | .setAnnotations annotations => Pane.setAnnotations annotations
  | .clearAnnotations => Pane.clearAnnotations

/-- One thing that happens at a desk. -/
inductive Step where
  /-- the session takes notice of the text of the pane -/
  | notice
  | edit (text : String)
  /-- the owner of the pane changes it, and the session is not told -/
  | host (change : PaneChange)
  | submit (flags : Flags)
  | compile
  | setFlags (flags : Flags)
  /-- a run is asked for; `sink` is what becomes of programs at that moment -/
  | run (sink : String → String → Except ExecutionError Unit)
  /-- a response or a failure for a request, whether or not that was ever submitted -/
  | deliver (id : RequestId) (delivery : Delivery)
  /-- the body of an answer to a request -/
  | body (id : RequestId) (text : String)

/-- A session after a step. -/
def Session.take (s : Session) : Step → Session
  | .notice => s.onEdit
  | .edit text => s.edit text
  | .host change => s.host change.apply
  | .submit flags => s.submit flags
  | .compile => s.submit s.flags
  | .setFlags flags => s.setFlags flags
  | .run _ => s
  | .deliver id delivery => s.deliver id delivery
  | .body id text => s.receive id (Desk.decodeBody text).1

/-- A session after a history. -/
def Session.after (s : Session) (history : List Step) : Session := history.foldl Session.take s

namespace Desk

variable {σ : Type} [KeyValue σ]

/-- A desk after a step. -/
def take (d : Desk σ) : Step → Desk σ
  | .notice => d.within Session.onEdit
  | .edit text => d.within (Session.edit text)
  | .host change => d.within (Session.host change.apply)
  | .submit flags => d.submit flags
  | .compile => d.compile
  | .setFlags flags => d.within (Session.setFlags flags)
  | .run sink => (d.run sink).1
  | .deliver id delivery => d.deliver id delivery
  | .body id text => d.takeBody id text

/-- A desk after a history. -/
def after (d : Desk σ) (history : List Step) : Desk σ := history.foldl take d

/-- Two desks that differ in the warnings noted at most. -/
structure Agrees (d e : Desk σ) : Prop where
  session : d.session = e.session
  store : d.store = e.store
  sent : d.sent = e.sent
  runs : d.runs = e.runs

end Desk

/-! ## Reading a history -/

namespace Step

/-- Whether a step submits the text of the pane. -/
def submits : Step → Bool
  | .submit _ => true
  | .compile => true
  | _ => false

/-- Whether a step is an edit. -/
def edits : Step → Bool
  | .notice => true
  | .edit _ => true
  | _ => false

/-- The delivery that a step brings, and the request that it names. -/
def arrival? : Step → Option (RequestId × Delivery)
  | .deliver id delivery => some (id, delivery)
  | .body id text => some (id, .response (Desk.decodeBody text).1)
  | _ => none

/-- The response that a step brings, and the request that it names. -/
def response? : Step → Option (RequestId × Response)
  | .deliver id (.response r) => some (id, r)
  | .body id text => some (id, (Desk.decodeBody text).1)
  | _ => none

/-- Whether a step brings a response that names request `id`. -/
def answers (id : RequestId) (s : Step) : Bool := s.response?.any (·.1 == id)

end Step

namespace History

/-- The number of submissions in a history. As requests are numbered from 1, it is the number of the
latest one if there is any. -/
def issued (past : List Step) : Nat := past.countP Step.submits

/-- The steps since the latest submission, the latest first. -/
def sinceSubmission (past : List Step) : List Step := past.reverse.takeWhile fun s => !s.submits

/-- Request `id` is the latest, and no response came to it since it was submitted. -/
def Awaits (past : List Step) (id : RequestId) : Prop :=
  0 < issued past ∧ id = issued past ∧ ∀ s ∈ sinceSubmission past, s.answers id = false

instance (past : List Step) (id : RequestId) : Decidable (Awaits past id) := by
  unfold Awaits
  infer_instance

/-- What `f` makes of each step of `steps`, given the steps before it, where `past` came first. -/
def along {β : Type} (f : List Step → Step → Option β) (past : List Step) : List Step → List β
  | [] => []
  | s :: steps => (f past s).toList ++ along f (past ++ [s]) steps

/-! ### One more step -/

theorem along_snoc {β : Type} (f : List Step → Step → Option β) (past steps : List Step)
    (s : Step) :
    along f past (steps ++ [s]) = along f past steps ++ (f (past ++ steps) s).toList := by
  induction steps generalizing past with
  | nil => simp [along]
  | cons first steps ih =>
    rw [List.cons_append, along, along, ih, List.append_assoc, List.append_assoc]
    rfl

/-- A history with one more step is split at that step, or at a step before it. -/
theorem exists_split_snoc_iff {P : List Step → Step → List Step → Prop} (past : List Step)
    (s : Step) :
    (∃ before first since, past ++ [s] = before ++ first :: since ∧ P before first since) ↔
      P past s [] ∨
      ∃ before first since, past = before ++ first :: since ∧ P before first (since ++ [s]) := by
  constructor
  · rintro ⟨before, first, since, h, hp⟩
    rcases List.eq_nil_or_concat since with rfl | ⟨init, last, rfl⟩
    · obtain ⟨rfl, hs⟩ := List.append_inj' h rfl
      cases hs
      exact .inl hp
    · rw [List.concat_eq_append] at h hp
      rw [← List.cons_append, ← List.append_assoc] at h
      obtain ⟨rfl, hs⟩ := List.append_inj' h rfl
      cases hs
      exact .inr ⟨before, first, init, rfl, hp⟩
  · rintro (hp | ⟨before, first, since, rfl, hp⟩)
    · exact ⟨past, s, [], rfl, hp⟩
    · exact ⟨before, first, since ++ [s], by simp, hp⟩

theorem issued_snoc (past : List Step) (s : Step) :
    issued (past ++ [s]) = issued past + if s.submits then 1 else 0 := by
  simp [issued, List.countP_cons]

theorem issued_le_snoc (past : List Step) (s : Step) : issued past ≤ issued (past ++ [s]) := by
  rw [issued_snoc]
  exact Nat.le_add_right _ _

theorem sinceSubmission_snoc (past : List Step) (s : Step) :
    sinceSubmission (past ++ [s]) = if s.submits then [] else s :: sinceSubmission past := by
  cases h : s.submits <;> simp [sinceSubmission, h]

/-- A submission is awaited once it is made, and nothing else is. -/
theorem awaits_snoc_of_submits {s : Step} (h : s.submits = true) (past : List Step)
    (id : RequestId) : Awaits (past ++ [s]) id ↔ id = issued past + 1 := by
  simp [Awaits, issued_snoc, sinceSubmission_snoc, h]

/-- Any other step leaves awaited what it does not answer. -/
theorem awaits_snoc_of_not_submits {s : Step} (h : s.submits = false) (past : List Step)
    (id : RequestId) : Awaits (past ++ [s]) id ↔ Awaits past id ∧ s.answers id = false := by
  simp only [Awaits, issued_snoc, sinceSubmission_snoc, h, Bool.false_eq_true, if_false,
    Nat.add_zero, List.forall_mem_cons]
  constructor
  · rintro ⟨hpos, hid, hs, hall⟩
    exact ⟨⟨hpos, hid, hall⟩, hs⟩
  · rintro ⟨⟨hpos, hid, hall⟩, hs⟩
    exact ⟨hpos, hid, hs, hall⟩

end History

open History

/-! ## Desks and sessions -/

namespace Desk

variable {σ : Type} [KeyValue σ]

theorem take_session (d : Desk σ) (s : Step) : (d.take s).session = d.session.take s := by
  cases s with
  | run sink =>
    show (d.run sink).1.session = d.session
    unfold run
    split <;> rfl
  | _ => rfl

theorem after_snoc (d : Desk σ) (past : List Step) (s : Step) :
    d.after (past ++ [s]) = (d.after past).take s := by
  simp [after]

theorem after_session (d : Desk σ) (history : List Step) :
    (d.after history).session = d.session.after history := by
  induction history generalizing d with
  | nil => rfl
  | cons s history ih =>
    show ((d.take s).after history).session = (d.session.take s).after history
    rw [ih, take_session]

end Desk

namespace Session

theorem after_snoc (s : Session) (past : List Step) (step : Step) :
    s.after (past ++ [step]) = (s.after past).take step := by
  simp [after]

/-! ## What one step does -/

theorem accept_lastIssued (s : Session) (r : Response) :
    (s.accept r).lastIssued = s.lastIssued := by
  obtain e | (artifact | ds | message) := r <;> rfl

/-- Whatever the response is, nothing is awaited after it. -/
theorem accept_status_ne_pending (s : Session) (r : Response) (id : RequestId) :
    (s.accept r).status ≠ .pending id := by
  obtain e | (artifact | ds | message) := r <;> exact Status.noConfusion

theorem awaits_iff (s : Session) (id : RequestId) : s.awaits id = true ↔ s.status = .pending id :=
  beq_iff_eq

theorem receive_of_pending {s : Session} {id : RequestId} (h : s.status = .pending id)
    (r : Response) : s.receive id r = s.clearView.accept r :=
  if_pos ((s.awaits_iff id).2 h)

theorem receive_of_not_pending {s : Session} {id : RequestId} (h : s.status ≠ .pending id)
    (r : Response) : s.receive id r = s :=
  if_neg fun ha => h ((s.awaits_iff id).1 ha)

/-- All that a step can do to a session, and what it counts for in a history then. -/
inductive Effect (s : Session) (step : Step) : Session → Prop
  | submitted (flags : Flags) :
      step.submits = true → step.edits = false → step.response? = none →
      Effect s step (s.submit flags)
  /-- the session takes notice of a text, which may be the one that was there -/
  | edited (text : String) :
      step.submits = false → step.edits = true → step.response? = none →
      Effect s step (s.host (Pane.setText text)).onEdit
  | accepted (id : RequestId) (r : Response) :
      step.submits = false → step.edits = false → step.response? = some (id, r) →
      s.status = .pending id → Effect s step (s.clearView.accept r)
  | dropped (id : RequestId) (r : Response) :
      step.submits = false → step.edits = false → step.response? = some (id, r) →
      s.status ≠ .pending id → Effect s step s
  /-- the flags change at most, and the pane if the step is its owner's -/
  | quiet (pane : Pane) (flags : Flags) :
      step.submits = false → step.edits = false → step.response? = none →
      ((∀ change, step ≠ .host change) → pane = s.pane) →
      Effect s step { s with pane := pane, flags := flags }

theorem take_effect (s : Session) (step : Step) : ∃ s', s.take step = s' ∧ Effect s step s' := by
  refine ⟨_, rfl, ?_⟩
  -- whichever way a response came, it counts only while it is awaited
  have hreceive (id : RequestId) (r : Response) (hs : step.submits = false)
      (he : step.edits = false) (hr : step.response? = some (id, r)) :
      Effect s step (s.receive id r) := by
    by_cases hp : s.status = .pending id
    · rw [receive_of_pending hp]
      exact .accepted id r hs he hr hp
    · rw [receive_of_not_pending hp]
      exact .dropped id r hs he hr hp
  cases step with
  | notice => exact .edited s.pane.text rfl rfl rfl
  | edit text => exact .edited text rfl rfl rfl
  | host change =>
    exact .quiet (change.apply s.pane) s.flags rfl rfl rfl fun h => absurd rfl (h change)
  | submit flags => exact .submitted flags rfl rfl rfl
  | compile => exact .submitted s.flags rfl rfl rfl
  | setFlags flags => exact .quiet s.pane flags rfl rfl rfl fun _ => rfl
  | run sink => exact .quiet s.pane s.flags rfl rfl rfl fun _ => rfl
  | deliver id delivery =>
    cases delivery with
    | response r => exact hreceive id r rfl rfl rfl
    | failed e => exact .quiet s.pane s.flags rfl rfl rfl fun _ => rfl
  | body id text => exact hreceive id _ rfl rfl rfl

theorem afterEdit_eq_pending_iff (st : Status) (id : RequestId) :
    st.afterEdit = .pending id ↔ st = .pending id := by
  cases st <;> simp [Status.afterEdit]

/-! ## What a history leaves -/

variable (code : String) (verify : Bool) (pane : Pane)

/-- Requests are numbered from 1 upwards, one for each submission. -/
theorem lastIssued_after (history : List Step) :
    ((start code verify pane).after history).lastIssued =
      if issued history = 0 then none else some (issued history) := by
  induction history using List.reverseRecOn with
  | nil => rfl
  | append_singleton past step ih =>
    obtain ⟨s', htake, heffect⟩ := take_effect ((start code verify pane).after past) step
    rw [after_snoc, issued_snoc, htake]
    cases heffect with
    | submitted flags hsub =>
      show some (nextRequest _) = _
      unfold nextRequest
      rw [ih]
      by_cases h0 : issued past = 0
      · simp [h0, hsub, firstRequest]
      · simp [h0, hsub]
    | edited text hsub =>
      rw [hsub]
      exact ih
    | accepted id r hsub =>
      rw [hsub, accept_lastIssued]
      exact ih
    | dropped id r hsub =>
      rw [hsub]
      exact ih
    | quiet pane flags hsub =>
      rw [hsub]
      exact ih

theorem nextRequest_after (history : List Step) :
    ((start code verify pane).after history).nextRequest = issued history + 1 := by
  unfold nextRequest
  rw [lastIssued_after]
  by_cases h0 : issued history = 0
  · simp [h0, firstRequest]
  · simp [h0]

/-- A session is pending on a request exactly as long as the history awaits it. There is no list of
requests answered: a request that was answered is never pending again, because the number of the
next one is higher. -/
theorem pending_after_iff (history : List Step) (id : RequestId) :
    ((start code verify pane).after history).status = .pending id ↔ Awaits history id := by
  induction history using List.reverseRecOn with
  | nil => exact ⟨(fun h => by cases h), fun h => absurd h.1 (by decide)⟩
  | append_singleton past step ih =>
    have hnext := nextRequest_after code verify pane past
    rw [after_snoc]
    generalize (start code verify pane).after past = s at ih hnext
    obtain ⟨s', htake, heffect⟩ := take_effect s step
    rw [htake]
    cases heffect with
    | submitted flags hsub =>
      rw [awaits_snoc_of_submits hsub, ← hnext]
      show Status.pending s.nextRequest = .pending id ↔ _
      rw [Status.pending.injEq]
      exact eq_comm
    | edited text hsub _ hr =>
      have hans : step.answers id = false := by simp [Step.answers, hr]
      rw [awaits_snoc_of_not_submits hsub, ← ih, hans]
      simp only [and_true]
      exact afterEdit_eq_pending_iff s.status id
    | accepted other r hsub _ hr hp =>
      have hans : step.answers id = (other == id) := by simp [Step.answers, hr]
      rw [awaits_snoc_of_not_submits hsub, ← ih, hans]
      constructor
      -- the only request awaited was answered
      · exact fun h => absurd h (accept_status_ne_pending _ _ _)
      · rintro ⟨h, hne⟩
        rw [hp, Status.pending.injEq] at h
        simp [h] at hne
    | dropped other r hsub _ hr hp =>
      have hans : step.answers id = (other == id) := by simp [Step.answers, hr]
      rw [awaits_snoc_of_not_submits hsub, ← ih, hans]
      constructor
      -- if a request is awaited, it is another one than was answered
      · intro h
        refine ⟨h, beq_eq_false_iff_ne.2 fun heq => hp ?_⟩
        rw [heq, h]
      · exact And.left
    | quiet pane flags hsub _ hr =>
      have hans : step.answers id = false := by simp [Step.answers, hr]
      rw [awaits_snoc_of_not_submits hsub, ← ih, hans]
      simp only [and_true]

end Session

/-- A desk starts with the session saved, or with one for the default document. -/
theorem Desk.start_session {σ : Type} [KeyValue σ] (pane : Pane) (store : SessionStore σ) :
    ∃ code verify, (Desk.start pane store).session = .start code verify pane := by
  unfold Desk.start
  cases store.load.1 with
  | none => exact ⟨_, _, rfl⟩
  | some saved => exact ⟨_, _, rfl⟩

end CompileSession
