import CompileSession.Proofs.Markers
import CompileSession.Store.Memory

/-!
# Editing

An edit takes what is shown off the pane, empties the log, closes the gate and keeps what is
awaited, whatever the session was before. All that it leaves of an earlier edit is whether the
document is dirty, so of several edits one after the other only the last one counts, and taking
notice of a text already noticed does nothing.

`Editing` says what may stand between the edits: taking notice, failures, and responses that are not
awaited.

Results:
1. `Session.edit_marked_edit`: an edit after an edit is the edit alone, up to the dirty flag.
2. `Session.Editing.comesTo`: so is a whole course of edits, and the flag tells whether some edit
   changed the document.
3. `Desk.last_edit_wins`: the same at a desk, where nothing is sent, saved or run meanwhile.
-/

namespace CompileSession

open History

namespace Session

/-- The session with its document marked as dirty or clean. -/
def marked (dirty : Bool) (s : Session) : Session :=
  { s with document := { s.document with dirty := dirty } }

/-- Some edit in a history puts in another text than the document has just before. -/
def Changes (s : Session) (history : List Step) : Prop :=
  ∃ past step rest, history = past ++ step :: rest ∧
    ∃ text, step = .edit text ∧ text ≠ (s.after past).document.text

/-- A course of edits of a session, up to the edit that puts in `last`. It begins with an edit.
Behind that the session may take notice of the text of the pane any number of times, and whatever
is delivered is a failure or a response that is not awaited. -/
inductive Editing (s : Session) : List Step → String → Prop
  | first {text : String} : Editing s [.edit text] text
  | edit {past : List Step} {last text : String} :
      Editing s past last → Editing s (past ++ [.edit text]) text
  | notice {past : List Step} {last : String} :
      Editing s past last → Editing s (past ++ [.notice]) last
  | failed {past : List Step} {last : String} {id : RequestId} {e : TransportError} :
      Editing s past last → Editing s (past ++ [.deliver id (.failed e)]) last
  | stale {past : List Step} {last : String} {step : Step} {id : RequestId} {r : Response} :
      Editing s past last → step.response? = some (id, r) → (s.after past).status ≠ .pending id →
      Editing s (past ++ [step]) last

/-! ## One edit -/

theorem afterEdit_afterEdit (st : Status) : st.afterEdit.afterEdit = st.afterEdit := by
  cases st <;> rfl

/-- All that an edit does. -/
theorem edit_eq (s : Session) (text : String) :
    s.edit text =
      { s with
        pane := (s.overlay.clear s.pane).setText text
        document := ⟨text, s.document.dirty || text != s.document.text⟩
        overlay := .empty
        log := []
        armed := false
        status := s.status.afterEdit } := by
  have hpane : s.overlay.clear (s.pane.setText text) = (s.overlay.clear s.pane).setText text := by
    rw [Overlay.clear_eq, Overlay.clear_eq]
    rfl
  have hdocument : (s.host (Pane.setText text)).noticed =
      ⟨text, s.document.dirty || text != s.document.text⟩ := by
    show (if text = s.document.text then s.document else ⟨text, true⟩) = _
    by_cases h : text = s.document.text
    · rw [if_pos h, h, bne_self_eq_false, Bool.or_false]
    · rw [if_neg h, bne_iff_ne.2 h, Bool.or_true]
  unfold edit onEdit
  rw [hdocument, ← hpane]
  rfl

/-- Taking notice is an edit that puts in the text that is there. -/
theorem onEdit_eq_edit (s : Session) : s.onEdit = s.edit s.pane.text := rfl

/-- What was cleared once is not changed by clearing it again. -/
theorem empty_clear_clear (o : Overlay) (p : Pane) :
    Overlay.empty.clear (o.clear p) = o.clear p := by
  rw [o.clear_eq]
  rfl

/-- Of an edit nothing is left by the next one but whether the document is dirty. -/
theorem edit_marked_edit (s : Session) (text next : String) (dirty : Bool) :
    ((s.edit text).marked dirty).edit next = (s.edit next).marked (dirty || next != text) := by
  have hpane : Overlay.empty.clear ((s.overlay.clear s.pane).setText text) =
      (s.overlay.clear s.pane).setText text :=
    congrArg (Pane.setText text) (empty_clear_clear s.overlay s.pane)
  rw [edit_eq s text, edit_eq s next, edit_eq]
  simp only [marked, hpane, afterEdit_afterEdit]
  rfl

theorem marked_edit_onEdit (s : Session) (text : String) (dirty : Bool) :
    ((s.edit text).marked dirty).onEdit = (s.edit text).marked dirty := by
  have htext : ((s.edit text).marked dirty).pane.text = text := by
    rw [edit_eq]
    rfl
  rw [onEdit_eq_edit, htext, edit_marked_edit, bne_self_eq_false, Bool.or_false]

/-! ## A course of edits -/

theorem not_changes_nil (s : Session) : ¬ s.Changes [] := by
  rintro ⟨past, step, rest, h, -⟩
  cases past <;> cases h

theorem changes_snoc_edit_iff (s : Session) (past : List Step) (text : String) :
    s.Changes (past ++ [.edit text]) ↔ text ≠ (s.after past).document.text ∨ s.Changes past := by
  rw [Changes, exists_split_snoc_iff]
  refine or_congr_left ⟨?_, fun h => ⟨text, rfl, h⟩⟩
  rintro ⟨other, heq, hne⟩
  cases heq
  exact hne

theorem changes_snoc_iff_of_ne {s : Session} {past : List Step} {step : Step}
    (h : ∀ text, step ≠ .edit text) : s.Changes (past ++ [step]) ↔ s.Changes past := by
  rw [Changes, exists_split_snoc_iff]
  refine or_iff_right ?_
  rintro ⟨text, heq, -⟩
  exact h text heq

variable {s : Session} {steps : List Step} {last : String}

theorem ne_edit_of_response {step : Step} {id : RequestId} {r : Response}
    (h : step.response? = some (id, r)) (text : String) : step ≠ .edit text := by
  rintro rfl
  cases h

/-- A response that is not awaited has no effect. -/
theorem take_of_stale {step : Step} {id : RequestId} {r : Response}
    (h : step.response? = some (id, r)) (hp : s.status ≠ .pending id) : s.take step = s := by
  cases step with
  | deliver id delivery =>
    cases delivery with
    | response r =>
      cases h
      exact receive_of_not_pending hp r
    | failed e => cases h
  | body id text =>
    cases h
    exact receive_of_not_pending hp _
  | _ => cases h

/-- The steps come to an edit that puts in `last`: they leave the session as it alone does, but for
the dirty flag, which tells whether the document was dirty or some edit changed it. -/
def ComesTo (s : Session) (steps : List Step) (last : String) : Prop :=
  ∃ dirty, s.after steps = (s.edit last).marked dirty ∧
    (dirty = true ↔ s.document.dirty = true ∨ s.Changes steps)

theorem comesTo_first (s : Session) (text : String) : s.ComesTo [.edit text] text := by
  refine ⟨(s.edit text).document.dirty, rfl, ?_⟩
  have hchanges := changes_snoc_edit_iff s [] text
  rw [or_iff_left (not_changes_nil s)] at hchanges
  rw [← List.nil_append [Step.edit text], hchanges, edit_eq, Bool.or_eq_true, bne_iff_ne]
  rfl

theorem ComesTo.edit (h : s.ComesTo steps last) (text : String) :
    s.ComesTo (steps ++ [.edit text]) text := by
  obtain ⟨dirty, hafter, hdirty⟩ := h
  have hlast : (s.after steps).document.text = last := by
    rw [hafter, edit_eq]
    rfl
  refine ⟨dirty || text != last, ?_, ?_⟩
  · rw [after_snoc, hafter]
    exact edit_marked_edit s last text dirty
  · rw [changes_snoc_edit_iff, hlast, Bool.or_eq_true, hdirty, bne_iff_ne, or_assoc]
    exact or_congr_right or_comm

/-- The text of the pane was noticed by the last edit. -/
theorem ComesTo.onEdit (h : s.ComesTo steps last) : (s.after steps).onEdit = s.after steps := by
  obtain ⟨dirty, hafter, -⟩ := h
  rw [hafter, marked_edit_onEdit]

/-- A step without effect may be added. -/
theorem ComesTo.keep (h : s.ComesTo steps last) {step : Step}
    (htake : (s.after steps).take step = s.after steps) (hne : ∀ text, step ≠ .edit text) :
    s.ComesTo (steps ++ [step]) last := by
  obtain ⟨dirty, hafter, hdirty⟩ := h
  refine ⟨dirty, ?_, ?_⟩
  · rw [after_snoc, htake, hafter]
  · rw [changes_snoc_iff_of_ne hne]
    exact hdirty

theorem Editing.comesTo (h : Editing s steps last) : s.ComesTo steps last := by
  induction h with
  | first => exact comesTo_first s _
  | edit _ ih => exact ih.edit _
  | notice _ ih => exact ih.keep ih.onEdit fun _ => Step.noConfusion
  | failed _ ih => exact ih.keep rfl fun _ => Step.noConfusion
  | stale _ hr hp ih => exact ih.keep (take_of_stale hr hp) (ne_edit_of_response hr)

end Session

open Session

/-! ## At a desk -/

namespace Desk

variable {σ : Type}

/-- What an edit of `d` leaves as it was, and what it empties: nothing is sent, saved or run, no
flags are set and no request is numbered, what is awaited stays awaited, and of what is shown only
the markers of others stay. -/
structure OnlyClears (d e : Desk σ) : Prop where
  sent : e.sent = d.sent
  store : e.store = d.store
  runs : e.runs = d.runs
  flags : e.session.flags = d.session.flags
  lastIssued : e.session.lastIssued = d.session.lastIssued
  pending : ∀ id, e.session.status = .pending id ↔ d.session.status = .pending id
  log : e.session.log = []
  annotations : e.session.pane.annotations = []
  tracked : e.session.overlay.tracked = []
  markers : ∀ m, m ∈ e.session.pane.markers ↔
    m ∈ d.session.pane.markers ∧ m.id ∉ d.session.overlay.tracked

theorem OnlyClears.of_session {d e : Desk σ} (text : String) {dirty : Bool}
    (h : e.session = (d.session.edit text).marked dirty) (hsent : e.sent = d.sent)
    (hstore : e.store = d.store) (hruns : e.runs = d.runs) : d.OnlyClears e := by
  rw [edit_eq, Overlay.clear_eq] at h
  refine ⟨hsent, hstore, hruns, ?_, ?_, fun id => ?_, ?_, ?_, ?_, fun m => ?_⟩
  · rw [h]; rfl
  · rw [h]; rfl
  · rw [h]
    exact afterEdit_eq_pending_iff d.session.status id
  · rw [h]; rfl
  · rw [h]; rfl
  · rw [h]; rfl
  · rw [h]
    show m ∈ d.session.pane.markers.filter _ ↔ _
    simp

variable [KeyValue σ]

/-- A course of edits concerns the session alone. -/
theorem after_editing (d : Desk σ) {steps : List Step} {last : String}
    (h : Editing d.session steps last) :
    (d.after steps).sent = d.sent ∧ (d.after steps).store = d.store ∧
      (d.after steps).runs = d.runs := by
  induction h with
  | first => exact ⟨rfl, rfl, rfl⟩
  | edit _ ih | notice _ ih | failed _ ih =>
    rw [after_snoc]
    exact ih
  | @stale _ _ step _ _ _ hr _ ih =>
    rw [after_snoc]
    cases step with
    | deliver | body => exact ih
    | _ => cases hr

/-- A course of edits at any desk leaves the session as the last edit alone leaves it, but for the
dirty flag, which tells whether the document was dirty or some edit changed it. Taking notice right
after an edit changes nothing. Nothing is sent, saved or run by an edit or by the whole course; what
is awaited stays awaited, and nothing drawn or logged is left. -/
theorem last_edit_wins (d : Desk σ) {steps : List Step} {last : String}
    (h : Editing d.session steps last) :
    let alone := d.take (.edit last)
    let e := d.after steps
    e.session = alone.session.marked e.session.document.dirty ∧
    e.sent = alone.sent ∧ e.store = alone.store ∧ e.runs = alone.runs ∧
    (e.session.document.dirty = true ↔
      d.session.document.dirty = true ∨ d.session.Changes steps) ∧
    d.OnlyClears e ∧
    (∀ text, (d.take (.edit text)).take .notice = d.take (.edit text)) ∧
    ∀ step, step.edits = true →
      d.OnlyClears (d.take step) ∧ (d.take step).warnings = d.warnings := by
  intro alone e
  obtain ⟨dirty, hafter, hdirty⟩ := h.comesTo
  have hsession : e.session = alone.session.marked dirty := (after_session d steps).trans hafter
  have hflag : e.session.document.dirty = dirty := by
    rw [hsession]
    rfl
  obtain ⟨hsent, hstore, hruns⟩ := after_editing d h
  refine ⟨?_, hsent, hstore, hruns, ?_, .of_session last hsession hsent hstore hruns,
    fun text => ?_, fun step hstep => ?_⟩
  · rw [hflag]
    exact hsession
  · rw [hflag]
    exact hdirty
  · -- the flag that the edit sets is the one that it is marked with
    have hnotice : (d.session.edit text).onEdit = d.session.edit text :=
      marked_edit_onEdit d.session text (d.session.edit text).document.dirty
    exact congrArg (fun session => { d with session := session }) hnotice
  · cases step with
    | notice => exact ⟨.of_session d.session.pane.text rfl rfl rfl rfl, rfl⟩
    | edit text => exact ⟨.of_session text rfl rfl rfl rfl, rfl⟩
    | _ => cases hstep

end Desk

/-- Two edits while the second of two requests is awaited. The answer to the first one and a failure
of the second come between them. -/
def History.editedWhileAwaited : List Step :=
  [.edit "a", .deliver 1 (.response (.ok (.success "late"))), .notice,
    .deliver 2 (.failed .timeout), .edit "b"]

theorem last_edit_wins_whileAwaited :
    let d := (Desk.start (Pane.ofText "") (none : SessionStore Memory)).after
      [.submit ⟨false, false⟩, .compile]
    Editing d.session editedWhileAwaited "b" ∧
    (d.after editedWhileAwaited).session = (d.take (.edit "b")).session.marked true ∧
    (d.after editedWhileAwaited).sent = d.sent ∧
    (d.after editedWhileAwaited).session.status = .pending 2 := by
  intro d
  have hcourse : Editing d.session editedWhileAwaited "b" := by
    have hfirst : Editing d.session [.edit "a"] "a" := .first
    have hstale : Editing d.session
        ([.edit "a"] ++ [.deliver 1 (.response (.ok (.success "late")))]) "a" :=
      .stale hfirst rfl (by decide)
    exact .edit (.failed (.notice hstale))
  obtain ⟨hsession, hsent, -, -, hdirty, honly, -⟩ := d.last_edit_wins hcourse
  have hchanged : d.session.Changes editedWhileAwaited :=
    ⟨[], _, _, rfl, "a", rfl, by decide⟩
  rw [hdirty.2 (.inr hchanged)] at hsession
  exact ⟨hcourse, hsession, hsent, (honly.pending 2).2 rfl⟩

end CompileSession
