import CompileSession.Proofs.Markers
import CompileSession.Proofs.Session.History
import CompileSession.Store.Memory

/-!
# What a session shows

The status, the log, the annotations and the markers of a session all follow from one event, the
last of its history that counts: an edit, a submission, or a response to the request awaited.
Whatever came before it is gone, and whatever came after it had no effect.

The pane has an owner beside the session. `Hosted` says what is asked of the owner: that the
annotations and the markers of the session are left alone.

Results:
1. `shows_after`: the invariant that ties the log and the pane to the last event.
2. `view_after_lastEvent`: what a session shows after a history.
-/

namespace CompileSession

open History

namespace History

/-! ## Events -/

/-- What decides what a session shows. -/
inductive Event where
  | edit
  | submission
  /-- the first response to a request, while that is the latest -/
  | response (r : Response)

/-- The event that a step is, given the steps before it. -/
def event? (past : List Step) (s : Step) : Option Event :=
  if s.edits then some .edit
  else if s.submits then some .submission
  else
    match s.response? with
    | none => none
    | some (id, r) => if Awaits past id then some (.response r) else none

/-- The last event of a history, if there was any. -/
def lastEvent (history : List Step) : Option Event := (along event? [] history).getLast?

theorem lastEvent_snoc (past : List Step) (s : Step) :
    lastEvent (past ++ [s]) = (event? past s).or (lastEvent past) := by
  rw [lastEvent, along_snoc, List.nil_append, lastEvent]
  cases event? past s with
  | none => simp
  | some e => simp

section
variable {past : List Step} {s : Step}

theorem event?_of_edits (he : s.edits = true) : event? past s = some .edit :=
  if_pos he

theorem event?_of_submits (he : s.edits = false) (hs : s.submits = true) :
    event? past s = some .submission := by
  simp [event?, he, hs]

theorem event?_of_response {id : RequestId} {r : Response} (hs : s.submits = false)
    (he : s.edits = false) (hr : s.response? = some (id, r)) :
    event? past s = if Awaits past id then some (.response r) else none := by
  simp [event?, he, hs, hr]

theorem event?_of_quiet (hs : s.submits = false) (he : s.edits = false)
    (hr : s.response? = none) : event? past s = none := by
  simp [event?, he, hs, hr]

end

/-! ## What an event leaves to be seen -/

/-- The status of a session that awaits nothing. -/
def settledStatus : Option Event → Status
  | some (.response (.ok (.success _))) => .succeeded
  | some (.response (.ok (.errors _))) => .failed .compileErrors
  | some (.response (.ok (.exception _))) => .failed .serverException
  | some (.response (.error _)) => .failed .protocol
  | _ => .idle

/-- The messages shown. Of the errors those without a place come first, as they are, and then those
with one. -/
def shownLog : Option Event → Log
  | some (.response (.ok (.success _))) => [⟨.success, "Compiled successfully!"⟩]
  | some (.response (.ok (.errors ds))) =>
    ((ds.filter fun d => !d.positioned).map fun d => ⟨.error, d.detailText⟩) ++
      (ds.filter Diagnostic.positioned).map fun d =>
        ⟨.error, "Compilation failed: " ++ d.displayText⟩
  | some (.response (.ok (.exception message))) => [⟨.error, "Internal failure: " ++ message⟩]
  | some (.response (.error e)) => [⟨.error, "Protocol error: " ++ e.message⟩]
  | _ => []

/-- The errors shown on the pane. -/
def shownErrors : Option Event → List Diagnostic
  | some (.response (.ok (.errors ds))) => ds
  | _ => []

/-- The annotations shown: one for each error with a place, where that begins. -/
def shownAnnotations (e : Option Event) : List Annotation :=
  (shownErrors e).filterMap fun d =>
    d.span.map fun s => ⟨⟨s.row, s.start⟩, d.detailText, .error⟩

/-- The piece of a text that a span covers. -/
def rangeOf (s : Span) : Range := ⟨⟨s.row, s.start⟩, ⟨s.row, s.stop⟩⟩

/-- The underlines shown: for each error with a place its own, then those of the places in its
context. -/
def shownUnderlines (e : Option Event) : List Overlay.Underline :=
  (shownErrors e).flatMap fun d =>
    match d.span with
    | none => []
    | some s =>
      ⟨rangeOf s, .errorMessage, .error⟩ ::
        (d.context.filterMap Diagnostic.span).map fun c => ⟨rangeOf c, .contextMessage, .info⟩

/-! ## The owner of the pane -/

/-- From a session `s` on, the owner of the pane changes nothing but its text and markers of its
own, which have the numbers `own`: those on the pane at the start and those added since. -/
inductive Hosted (s : Session) : List Step → List MarkerId → Prop
  | start : Hosted s [] (s.pane.markers.map (·.id))
  | add {past : List Step} {own : List MarkerId} {range : Range} {kind : MarkerClass}
      {severity : Severity} :
      Hosted s past own →
      Hosted s (past ++ [.host (.addMarker range kind severity)])
        (own ++ [(s.after past).pane.nextMarker])
  | remove {past : List Step} {own : List MarkerId} {id : MarkerId} :
      Hosted s past own → id ∈ own → Hosted s (past ++ [.host (.removeMarker id)]) own
  | setText {past : List Step} {own : List MarkerId} {text : String} :
      Hosted s past own → Hosted s (past ++ [.host (.setText text)]) own
  | other {past : List Step} {own : List MarkerId} {step : Step} :
      Hosted s past own → (∀ change, step ≠ .host change) → Hosted s (past ++ [step]) own

/-- The markers on a pane that are not the owner's. -/
def foreign (own : List MarkerId) (p : Pane) : List Marker :=
  p.markers.filter fun m => !own.contains m.id

end History

namespace ViewLemmas

theorem shownUnderlines_errors (ds : List Diagnostic) :
    shownUnderlines (some (.response (.ok (.errors ds)))) = ds.flatMap Overlay.underlines := by
  show ds.flatMap _ = _
  congr 1
  funext d
  unfold Overlay.underlines
  cases d.span with
  | none => rfl
  | some s => simp only [List.map_filterMap]; rfl

theorem messages_eq (ds : List Diagnostic) :
    ds.filterMap Overlay.message? =
      (ds.filter fun d => !d.positioned).map fun d => ⟨.error, d.detailText⟩ := by
  induction ds with
  | nil => rfl
  | cons d ds ih =>
    cases h : d.positioned <;> simp [Overlay.message?, h, ih]

/-- Each error is shown by one message. -/
theorem length_shownLog_errors (ds : List Diagnostic) :
    (shownLog (some (.response (.ok (.errors ds))))).length = ds.length := by
  show (_ ++ _ : Log).length = _
  rw [List.length_append, List.length_map, List.length_map]
  induction ds with
  | nil => rfl
  | cons d ds ih =>
    cases h : d.positioned <;> simp [h] <;> omega

/-- The log and the pane of a session show event `e`, on a pane whose owner has the markers
`own`. -/
structure Shows (own : List MarkerId) (s : Session) (e : Option Event) : Prop where
  log : s.log = shownLog e
  annotations : s.pane.annotations = shownAnnotations e
  underlines : (foreign own s.pane).map Overlay.underlineOf = shownUnderlines e
  /-- the markers that are not the owner's are those tracked -/
  tracked : s.overlay.tracked = (foreign own s.pane).map (·.id)
  numbered : s.pane.Numbered
  own_lt : ∀ id ∈ own, id < s.pane.nextMarker

/-- An event after which nothing is shown. -/
def Silent (e : Option Event) : Prop :=
  shownLog e = [] ∧ shownErrors e = []

theorem mem_foreign {own : List MarkerId} {p : Pane} {m : Marker} :
    m ∈ foreign own p ↔ m ∈ p.markers ∧ m.id ∉ own := by
  simp [foreign]

variable {own : List MarkerId} {s : Session} {e : Option Event}

/-- Only the text of the pane and what is not shown may change. -/
theorem Shows.congr (h : Shows own s e) {s' : Session} (hlog : s'.log = s.log)
    (hoverlay : s'.overlay = s.overlay) {text : String}
    (hpane : s'.pane = s.pane.setText text) : Shows own s' e := by
  obtain ⟨hl, ha, hu, ht, hn, ho⟩ := h
  refine ⟨hlog.trans hl, ?_, ?_, ?_, ?_, ?_⟩
  · rw [hpane]; exact ha
  · rw [hpane]; exact hu
  · rw [hoverlay, hpane]; exact ht
  · rw [hpane]; exact hn
  · rw [hpane]; exact ho

/-- The markers that stay when the view is cleared are the owner's. -/
theorem Shows.foreign_clearView (h : Shows own s e) : foreign own s.clearView.pane = [] := by
  refine List.eq_nil_iff_forall_not_mem.2 fun m hm => ?_
  obtain ⟨hmem, hown⟩ := mem_foreign.1 hm
  have hp : s.clearView.pane = s.overlay.clear s.pane := rfl
  rw [hp, Overlay.clear_eq] at hmem
  obtain ⟨hmem, hkept⟩ := List.mem_filter.1 hmem
  have htracked : m.id ∈ s.overlay.tracked := by
    rw [h.tracked]
    exact List.mem_map_of_mem (mem_foreign.2 ⟨hmem, hown⟩)
  simp [htracked] at hkept

theorem Shows.clearView (h : Shows own s e) {e' : Option Event} (he : Silent e') :
    Shows own s.clearView e' := by
  have hforeign := h.foreign_clearView
  have hp : s.clearView.pane = s.overlay.clear s.pane := rfl
  refine ⟨he.1.symm, ?_, ?_, ?_, ?_, ?_⟩
  · rw [hp, Overlay.clear_eq, shownAnnotations, he.2]
    rfl
  · rw [hforeign, shownUnderlines, he.2]
    rfl
  · rw [hforeign]
    rfl
  · rw [hp, Overlay.clear_eq]
    exact fun m hm => h.numbered m (List.mem_filter.1 hm).1
  · rw [hp, Overlay.clear_eq]
    exact h.own_lt

/-- The response that counts is shown on a view cleared before. -/
theorem Shows.accept (h : Shows own s none) (ht : s.overlay = .empty) (r : Response) :
    Shows own (s.accept r) (some (.response r)) := by
  obtain ⟨hl, ha, hu, htr, hn, ho⟩ := h
  have hlog : s.log = [] := hl
  obtain err | (artifact | ds | message) := r
  · exact ⟨congrArg (· ++ _) hlog, ha, hu, htr, hn, ho⟩
  · exact ⟨congrArg (· ++ _) hlog, ha, hu, htr, hn, ho⟩
  · have hnone : foreign own s.pane = [] := List.map_eq_nil_iff.1 hu
    have hpane : (s.accept (.ok (.errors ds))).pane = (s.overlay.draw s.pane s.log ds).pane := rfl
    have hdrawn : (s.accept (.ok (.errors ds))).pane =
        { s.pane with
          annotations := ds.filterMap Overlay.annotation?
          markers := s.pane.markers ++ Overlay.markersOf s.pane.nextMarker ds
          nextMarker := s.pane.nextMarker + (ds.flatMap Overlay.underlines).length } := by
      rw [hpane, Overlay.draw_pane, ht]
      congr 2
      exact List.filter_eq_self.2 fun _ _ => rfl
    -- the numbers of the drawing are new, so no marker of it is the owner's
    have hforeign : foreign own (s.accept (.ok (.errors ds))).pane =
        Overlay.markersOf s.pane.nextMarker ds := by
      rw [hdrawn]
      show List.filter _ (_ ++ _) = _
      rw [List.filter_append]
      show foreign own s.pane ++ _ = _
      rw [hnone, List.nil_append, List.filter_eq_self]
      intro m hm
      have hge := (Overlay.le_id_of_mem_numberFrom hm).1
      have hnot : m.id ∉ own := fun hmem => Nat.lt_irrefl _ (Nat.lt_of_lt_of_le (ho _ hmem) hge)
      simpa using hnot
    refine ⟨?_, ?_, ?_, ?_, ?_, ?_⟩
    · show (s.overlay.draw s.pane s.log ds).log ++ _ = _
      rw [Overlay.draw_log, hlog, List.nil_append, messages_eq]
      rfl
    · rw [hdrawn]
      rfl
    · rw [hforeign, shownUnderlines_errors]
      exact Overlay.map_underlineOf_numberFrom _ _
    · rw [hforeign]
      exact Overlay.draw_tracked s.overlay s.pane s.log ds
    · rw [hdrawn]
      intro m hm
      rcases List.mem_append.1 hm with hm | hm
      · exact Nat.lt_of_lt_of_le (hn m hm) (Nat.le_add_right _ _)
      · exact (Overlay.le_id_of_mem_numberFrom hm).2
    · rw [hdrawn]
      exact fun id hid => Nat.lt_of_lt_of_le (ho id hid) (Nat.le_add_right _ _)
  · exact ⟨congrArg (· ++ _) hlog, ha, hu, htr, hn, ho⟩

/-- The owner adds a marker, under a number that is new and from then on its own. -/
theorem Shows.add (h : Shows own s e) (range : Range) (kind : MarkerClass) (severity : Severity) :
    Shows (own ++ [s.pane.nextMarker]) (s.host (Pane.addMarker range kind severity)) e := by
  obtain ⟨hl, ha, hu, ht, hn, ho⟩ := h
  have hforeign : foreign (own ++ [s.pane.nextMarker]) (s.pane.addMarker range kind severity) =
      foreign own s.pane := by
    show List.filter _ (_ ++ _) = List.filter _ _
    rw [List.filter_append]
    -- the marker added is the owner's, and its number is that of no marker before
    have hnew : List.filter (fun m : Marker => !(own ++ [s.pane.nextMarker]).contains m.id)
        [⟨s.pane.nextMarker, range, kind, severity⟩] = [] := by simp
    rw [hnew, List.append_nil]
    refine List.filter_congr fun m hm => ?_
    have hne : m.id ≠ s.pane.nextMarker := Nat.ne_of_lt (hn m hm)
    simp [hne]
  refine ⟨hl, ha, ?_, ?_, hn.addMarker range kind severity, ?_⟩
  · show (foreign _ (s.pane.addMarker range kind severity)).map _ = _
    rw [hforeign]
    exact hu
  · show _ = (foreign _ (s.pane.addMarker range kind severity)).map _
    rw [hforeign]
    exact ht
  · intro id hid
    rcases List.mem_append.1 hid with hid | hid
    · exact Nat.lt_succ_of_lt (ho id hid)
    · rw [List.mem_singleton] at hid
      exact hid ▸ Nat.lt_succ_self _

/-- The owner removes a marker of its own. -/
theorem Shows.remove (h : Shows own s e) {id : MarkerId} (hid : id ∈ own) :
    Shows own (s.host (Pane.removeMarker id)) e := by
  obtain ⟨hl, ha, hu, ht, hn, ho⟩ := h
  have hforeign : foreign own (s.pane.removeMarker id) = foreign own s.pane := by
    show List.filter _ (List.filter _ _) = List.filter _ _
    rw [List.filter_filter]
    refine List.filter_congr fun m _ => ?_
    by_cases heq : m.id = id
    · simp [heq, hid]
    · simp [heq]
  refine ⟨hl, ha, ?_, ?_, hn.removeMarker id, ho⟩
  · show (foreign _ (s.pane.removeMarker id)).map _ = _
    rw [hforeign]
    exact hu
  · show _ = (foreign _ (s.pane.removeMarker id)).map _
    rw [hforeign]
    exact ht

theorem shows_start (code : String) (verify : Bool) {pane : Pane} (hn : pane.Numbered)
    (ha : pane.annotations = []) :
    Shows (pane.markers.map (·.id)) (.start code verify pane) none := by
  have hforeign : foreign (pane.markers.map (·.id)) (pane.setText code) = [] := by
    refine List.eq_nil_iff_forall_not_mem.2 fun m hm => ?_
    obtain ⟨hmem, hown⟩ := mem_foreign.1 hm
    exact hown (List.mem_map_of_mem hmem)
  refine ⟨rfl, ha, ?_, ?_, hn, ?_⟩
  · show (foreign _ (pane.setText code)).map _ = _
    rw [hforeign]
    rfl
  · show _ = (foreign _ (pane.setText code)).map _
    rw [hforeign]
    rfl
  · intro id hid
    obtain ⟨m, hm, rfl⟩ := List.mem_map.1 hid
    exact hn m hm

/-- A step that is not the owner's shows the event that it is, and if it is none it changes nothing
of what is shown. -/
theorem Shows.take {past : List Step} (h : Shows own s e)
    (hpending : ∀ id, s.status = .pending id ↔ Awaits past id) {step : Step}
    (hhost : ∀ change, step ≠ .host change) :
    Shows own (s.take step) ((event? past step).or e) := by
  obtain ⟨s', htake, heffect⟩ := Session.take_effect s step
  rw [htake]
  cases heffect with
  | submitted flags hsub he =>
    have hcleared : Shows own s.clearView (some .submission) := h.clearView ⟨rfl, rfl⟩
    rw [event?_of_submits he hsub]
    exact hcleared.congr rfl rfl rfl
  | edited text hsub he =>
    have hhosted : Shows own (s.host (Pane.setText text)) e := h.congr rfl rfl rfl
    have hcleared : Shows own (s.host (Pane.setText text)).clearView (some .edit) :=
      hhosted.clearView ⟨rfl, rfl⟩
    rw [event?_of_edits he]
    exact hcleared.congr rfl rfl rfl
  | accepted id r hsub he hr hp =>
    have hcleared : Shows own s.clearView none := h.clearView ⟨rfl, rfl⟩
    rw [event?_of_response hsub he hr, if_pos ((hpending id).1 hp)]
    exact hcleared.accept rfl r
  | dropped id r hsub he hr hp =>
    rw [event?_of_response hsub he hr, if_neg (mt (hpending id).2 hp)]
    exact h
  | quiet pane flags hsub he hr hpane =>
    rw [event?_of_quiet hsub he hr, hpane hhost]
    exact h.congr rfl rfl rfl

/-- After every history the session shows its last event. -/
theorem shows_after (code : String) (verify : Bool) {pane : Pane} (hn : pane.Numbered)
    (ha : pane.annotations = []) {history : List Step} {own : List MarkerId}
    (h : Hosted (.start code verify pane) history own) :
    Shows own ((Session.start code verify pane).after history) (lastEvent history) := by
  induction h with
  | start => exact shows_start code verify hn ha
  | add _ ih =>
    rw [Session.after_snoc, lastEvent_snoc]
    exact ih.add _ _ _
  | remove _ hid ih =>
    rw [Session.after_snoc, lastEvent_snoc]
    exact ih.remove hid
  | setText _ ih =>
    rw [Session.after_snoc, lastEvent_snoc]
    exact ih.congr rfl rfl rfl
  | other _ hhost ih =>
    rw [Session.after_snoc, lastEvent_snoc]
    exact ih.take (Session.pending_after_iff code verify pane _) hhost

/-! ## The status -/

/-- The status of a session that awaits nothing is that of its last event. -/
def Settles (s : Session) (e : Option Event) : Prop :=
  (∀ id, s.status ≠ .pending id) → s.status = settledStatus e

theorem settles_accept (s : Session) (r : Response) :
    Settles (s.accept r) (some (.response r)) := by
  obtain err | (artifact | ds | message) := r <;> exact fun _ => rfl

theorem Settles.take {past : List Step} (h : Settles s e)
    (hpending : ∀ id, s.status = .pending id ↔ Awaits past id) (step : Step) :
    Settles (s.take step) ((event? past step).or e) := by
  obtain ⟨s', htake, heffect⟩ := Session.take_effect s step
  rw [htake]
  cases heffect with
  | submitted flags => exact fun hnot => absurd rfl (hnot s.nextRequest)
  | edited text hsub he =>
    rw [event?_of_edits he]
    intro hnot
    -- an edit ends every state but that of a request awaited
    have hst : s.status.afterEdit = .idle := by
      cases hs : s.status with
      | pending id => exact absurd (congrArg Status.afterEdit hs) (hnot id)
      | _ => rfl
    exact hst
  | accepted id r hsub he hr hp =>
    rw [event?_of_response hsub he hr, if_pos ((hpending id).1 hp)]
    exact settles_accept s.clearView r
  | dropped id r hsub he hr hp =>
    rw [event?_of_response hsub he hr, if_neg (mt (hpending id).2 hp)]
    exact h
  | quiet pane flags hsub he hr =>
    rw [event?_of_quiet hsub he hr]
    exact h

theorem settles_after (code : String) (verify : Bool) (pane : Pane) (history : List Step) :
    Settles ((Session.start code verify pane).after history) (lastEvent history) := by
  induction history using List.reverseRecOn with
  | nil => exact fun _ => rfl
  | append_singleton past step ih =>
    rw [Session.after_snoc, lastEvent_snoc]
    exact ih.take (Session.pending_after_iff code verify pane past) step

end ViewLemmas

open ViewLemmas

/-- What a session shows is decided by the last event of its history, on any pane that starts
without annotations and whose owner keeps to its own markers. The session is pending on the latest
request until that has its first response, and else in the state of its last event. The log, the
annotations and the markers that are not the owner's are those of the last event too; of errors,
each is told by one message. -/
theorem view_after_lastEvent {σ : Type} [KeyValue σ] {pane : Pane} (store : SessionStore σ)
    (hnumbered : pane.Numbered) (hblank : pane.annotations = []) {history : List Step}
    {own : List MarkerId} (hosted : Hosted (Desk.start pane store).session history own) :
    let s := ((Desk.start pane store).after history).session
    (∀ id, s.status = .pending id ↔ Awaits history id) ∧
    ((∀ id, ¬ Awaits history id) → s.status = settledStatus (lastEvent history)) ∧
    s.log = shownLog (lastEvent history) ∧
    s.pane.annotations = shownAnnotations (lastEvent history) ∧
    (foreign own s.pane).map Overlay.underlineOf = shownUnderlines (lastEvent history) ∧
    ∀ ds, lastEvent history = some (.response (.ok (.errors ds))) → s.log.length = ds.length := by
  obtain ⟨code, verify, hstart⟩ := Desk.start_session pane store
  rw [hstart] at hosted
  intro s
  have hs : s = (Session.start code verify pane).after history := by
    rw [← hstart]
    exact Desk.after_session _ history
  have hpending := Session.pending_after_iff code verify pane history
  have hshows := shows_after code verify hnumbered hblank hosted
  rw [← hs] at hpending hshows
  refine ⟨hpending, fun hnot => ?_, hshows.log, hshows.annotations, hshows.underlines, ?_⟩
  · rw [hs]
    refine settles_after code verify pane history fun id hid => ?_
    exact hnot id ((hpending id).1 (hs ▸ hid))
  · intro ds hds
    rw [hshows.log, hds, length_shownLog_errors]

/-- An error with a place and one that explains it. -/
def misplacedError : Diagnostic where
  text := "unknown variable"
  span := some ⟨1, 0, 3⟩
  counterexample := none
  filename := none
  context := [⟨"declared here", some ⟨2, 4, 6⟩, none, none, []⟩]

/-- The owner of a pane marks a place while a request is awaited, and removes the mark again once
the errors are there. -/
def markedWhileAwaited : List Step :=
  [.submit ⟨false, false⟩, .host (.addMarker ⟨⟨0, 0⟩, ⟨0, 1⟩⟩ .contextMessage .info),
    .deliver 1 (.response (.ok (.errors [misplacedError]))), .host (.removeMarker 0)]

theorem view_after_markedWhileAwaited :
    let start := Desk.start (Pane.ofText "") (none : SessionStore Memory)
    let s := (start.after markedWhileAwaited).session
    (Pane.ofText "").Numbered ∧ Hosted start.session markedWhileAwaited [0] ∧
    s.log = [⟨.error, "Compilation failed: unknown variable"⟩] ∧
    s.pane.annotations = [⟨⟨0, 0⟩, "unknown variable", .error⟩] ∧
    (foreign [0] s.pane).map Overlay.underlineOf =
      [⟨⟨⟨0, 0⟩, ⟨0, 4⟩⟩, .errorMessage, .error⟩, ⟨⟨⟨1, 4⟩, ⟨1, 7⟩⟩, .contextMessage, .info⟩] := by
  intro start s
  have hnumbered : (Pane.ofText "").Numbered := Pane.numbered_ofText ""
  have hosted : Hosted start.session markedWhileAwaited [0] := by
    have hsubmit : Hosted start.session ([] ++ [.submit ⟨false, false⟩]) [] :=
      .other .start (fun _ h => by cases h)
    have hadd : Hosted start.session
        ([.submit ⟨false, false⟩] ++ [.host (.addMarker ⟨⟨0, 0⟩, ⟨0, 1⟩⟩ .contextMessage .info)])
        ([] ++ [0]) := .add hsubmit
    have herrors : Hosted start.session (markedWhileAwaited.dropLast.dropLast ++
        [.deliver 1 (.response (.ok (.errors [misplacedError])))]) [0] :=
      .other hadd (fun _ h => by cases h)
    exact .remove herrors (by decide)
  have hview := view_after_lastEvent (none : SessionStore Memory) hnumbered rfl hosted
  obtain ⟨hlog, hannotations, hunderlines, -⟩ := hview.2.2
  exact ⟨hnumbered, hosted, hlog, hannotations, hunderlines⟩

end CompileSession
