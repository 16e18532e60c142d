import CompileSession.Proofs.Markers
import CompileSession.Proofs.Session.History
import CompileSession.Proofs.Store.Kept
import CompileSession.Store.Memory

/-!
# What is sent, what is saved, and what a restart finds

Three parties hear of a submission: the network gets a request, the store gets a document, and the
session moves on. `requests` says by the history alone what is submitted; the text of the pane is
what was put into it last, whoever did so, and the flags are those set last.

Results:
1. `Session.text_after` and `Session.flags_after`: the text and the flags at any moment.
2. `Desk.sent_after` and `Desk.store_after`: the requests sent and the documents written are those
   of the submissions, one for each, in their order.
3. `Desk.submissions_agree`: both together, and the session that a restart finds.
-/

namespace CompileSession

namespace Step

/-- The text that a step puts into the pane. -/
def text? : Step → Option String
  | .edit text => some text
  | .host (.setText text) => some text
  | _ => none

/-- The flags that a step sets. -/
def flags? : Step → Option Flags
  | .submit flags => some flags
  | .setFlags flags => some flags
  | _ => none

end Step

namespace History

/-- The text of a pane after a history that found `text` in it. -/
def textAt (text : String) (past : List Step) : String :=
  (past.filterMap Step.text?).getLast?.getD text

/-- The flags after a history that found `flags` set. -/
def flagsAt (flags : Flags) (past : List Step) : Flags :=
  (past.filterMap Step.flags?).getLast?.getD flags

/-- The requests submitted in a history: each with the text of the pane at that moment, and with the
flags set last, by the submission itself if it sets any. -/
def requests (text : String) (flags : Flags) (history : List Step) : List Request :=
  along
    (fun past s =>
      if s.submits then some (.of (textAt text past) (flagsAt flags (past ++ [s]))) else none)
    [] history

/-- Requests with their numbers, from the first one on. -/
def numbered (rs : List Request) : List (RequestId × Request) :=
  (rs.zipIdx 1).map fun (r, id) => (id, r)

theorem textAt_snoc (text : String) (past : List Step) (s : Step) :
    textAt text (past ++ [s]) = s.text?.getD (textAt text past) := by
  unfold textAt
  rw [List.filterMap_append]
  cases h : s.text? with
  | none => simp [h]
  | some new => simp [h]

theorem flagsAt_snoc (flags : Flags) (past : List Step) (s : Step) :
    flagsAt flags (past ++ [s]) = s.flags?.getD (flagsAt flags past) := by
  unfold flagsAt
  rw [List.filterMap_append]
  cases h : s.flags? with
  | none => simp [h]
  | some new => simp [h]

theorem requests_snoc (text : String) (flags : Flags) (past : List Step) (s : Step) :
    requests text flags (past ++ [s]) = requests text flags past ++
      if s.submits then [.of (textAt text past) (s.flags?.getD (flagsAt flags past))] else [] := by
  rw [requests, along_snoc, List.nil_append, flagsAt_snoc, ← requests]
  cases s.submits <;> rfl

theorem length_requests (text : String) (flags : Flags) (history : List Step) :
    (requests text flags history).length = issued history := by
  induction history using List.reverseRecOn with
  | nil => rfl
  | append_singleton past s ih =>
    rw [requests_snoc, List.length_append, ih, issued_snoc]
    cases s.submits <;> rfl

theorem numbered_snoc (rs : List Request) (r : Request) :
    numbered (rs ++ [r]) = numbered rs ++ [(rs.length + 1, r)] := by
  simp [numbered, List.zipIdx_append, Nat.add_comm]

end History

open History

/-! ## The text and the flags of a session -/

namespace Session

theorem receive_text (s : Session) (id : RequestId) (r : Response) :
    (s.receive id r).pane.text = s.pane.text := by
  have hclear : s.clearView.pane.text = s.pane.text := by
    show (s.overlay.clear s.pane).text = _
    rw [Overlay.clear_eq]
  unfold receive
  split
  · obtain e | (artifact | ds | message) := r
    · exact hclear
    · exact hclear
    · show (s.clearView.overlay.draw s.clearView.pane s.clearView.log ds).pane.text = _
      rw [Overlay.draw_pane]
      exact hclear
    · exact hclear
  · rfl

theorem receive_flags (s : Session) (id : RequestId) (r : Response) :
    (s.receive id r).flags = s.flags := by
  unfold receive
  split
  · obtain e | (artifact | ds | message) := r <;> rfl
  · rfl

/-- Only an edit and the owner of the pane put another text into it. -/
theorem take_text (s : Session) (step : Step) :
    (s.take step).pane.text = step.text?.getD s.pane.text := by
  have hclear (p : Pane) : (s.overlay.clear p).text = p.text := by rw [Overlay.clear_eq]
  cases step with
  | notice | submit | compile => exact hclear s.pane
  | edit text => exact hclear (s.pane.setText text)
  | host change => cases change <;> rfl
  | setFlags | run => rfl
  | deliver id delivery =>
    cases delivery with
    | response r => exact receive_text s id r
    | failed e => rfl
  | body id text => exact receive_text s id _

theorem take_flags (s : Session) (step : Step) :
    (s.take step).flags = step.flags?.getD s.flags := by
  cases step with
  | deliver id delivery =>
    cases delivery with
    | response r => exact receive_flags s id r
    | failed e => rfl
  | body id text => exact receive_flags s id _
  | _ => rfl

/-- The text of the pane is what was put into it last. -/
theorem text_after (s : Session) (history : List Step) :
    (s.after history).pane.text = textAt s.pane.text history := by
  induction history using List.reverseRecOn with
  | nil => rfl
  | append_singleton past step ih => rw [after_snoc, take_text, ih, textAt_snoc]

/-- The flags are those set last. -/
theorem flags_after (s : Session) (history : List Step) :
    (s.after history).flags = flagsAt s.flags history := by
  induction history using List.reverseRecOn with
  | nil => rfl
  | append_singleton past step ih => rw [after_snoc, take_flags, ih, flagsAt_snoc]

end Session

/-! ## The store -/

/-- The session that a desk opens over a store: the one saved, or the default document, not to be
verified. -/
def SessionStore.opening {σ : Type} [KeyValue σ] (store : SessionStore σ) : Saved :=
  store.load.1.getD ⟨defaultDocument, false⟩

/-- The store after the documents of the requests were written one after the other. -/
def written {σ : Type} [KeyValue σ] (backend : σ) (rs : List Request) : Except StoreError σ :=
  rs.foldlM
    (fun backend r => KeyValue.set backend Saved.key (Saved.document ⟨r.code, r.verify⟩)) backend

section
variable {σ : Type} [KeyValue σ]

theorem written_snoc {backend kept : σ} {rs : List Request} (h : written backend rs = .ok kept)
    (r : Request) :
    written backend (rs ++ [r]) =
      KeyValue.set kept Saved.key (Saved.document ⟨r.code, r.verify⟩) := by
  unfold written at h ⊢
  rw [List.foldlM_append, h]
  simp only [List.foldlM_cons, List.foldlM_nil, bind_pure]
  rfl

theorem SessionStore.save_of_set {backend kept : σ} {s : Saved}
    (h : KeyValue.set backend Saved.key s.document = .ok kept) :
    SessionStore.save (some backend) s = (some kept, []) := by
  unfold SessionStore.save
  simp only [h]

/-- A document that holds a saved session is loaded. -/
theorem SessionStore.load_of_get {backend : σ} {s : Saved}
    (h : KeyValue.get backend Saved.key = .ok (some s.document)) :
    SessionStore.load (some backend) = (some s, []) := by
  unfold SessionStore.load
  simp only [h, Saved.ofText_document]

variable [LawfulKeyValue σ]

/-- Documents can be written to a lawful store: it then holds the last of them, and under every
other key what it held. -/
theorem written_ok (backend : σ) (rs : List Request) :
    ∃ kept, written backend rs = .ok kept ∧
      (∀ key, key ≠ Saved.key → KeyValue.get kept key = KeyValue.get backend key) ∧
      (rs = [] → kept = backend) ∧
      ∀ r, rs.getLast? = some r →
        KeyValue.get kept Saved.key = .ok (some (Saved.document ⟨r.code, r.verify⟩)) := by
  induction rs using List.reverseRecOn with
  | nil => exact ⟨backend, rfl, fun _ _ => rfl, fun _ => rfl, fun r h => by cases h⟩
  | append_singleton rs r ih =>
    obtain ⟨kept, hwritten, hothers, -, -⟩ := ih
    obtain ⟨kept', hset, hget, hframe⟩ :=
      LawfulKeyValue.set_ok kept Saved.key (Saved.document ⟨r.code, r.verify⟩)
    refine ⟨kept', ?_, fun key hkey => ?_, fun h => absurd h (by simp), fun r' hlast => ?_⟩
    · rw [written_snoc hwritten]
      exact hset
    · rw [hframe key hkey]
      exact hothers key hkey
    · rw [List.getLast?_concat, Option.some.injEq] at hlast
      subst hlast
      exact hget

end

/-! ## Desks -/

namespace Desk

variable {σ : Type} [KeyValue σ]

theorem start_opening (pane : Pane) (store : SessionStore σ) :
    (start pane store).session = .start store.opening.code store.opening.verify pane := by
  unfold start SessionStore.opening
  cases store.load.1 <;> rfl

/-- A submission sends one request and saves what it is about. -/
theorem take_of_submits {s : Step} (h : s.submits = true) (d : Desk σ) :
    let r := Request.of d.session.pane.text (s.flags?.getD d.session.flags)
    (d.take s).sent = d.sent ++ [(d.session.nextRequest, r)] ∧
      (d.take s).store = (d.store.save ⟨r.code, r.verify⟩).1 := by
  cases s with
  | submit | compile => exact ⟨rfl, rfl⟩
  | _ => cases h

/-- No other step sends or saves anything. -/
theorem take_of_not_submits {s : Step} (h : s.submits = false) (d : Desk σ) :
    (d.take s).sent = d.sent ∧ (d.take s).store = d.store := by
  cases s with
  | submit | compile => cases h
  | run sink =>
    show (d.run sink).1.sent = d.sent ∧ (d.run sink).1.store = d.store
    unfold run
    split <;> exact ⟨rfl, rfl⟩
  | _ => exact ⟨rfl, rfl⟩

/-- The text and the flags from which a step takes its request. -/
theorem request_after (pane : Pane) (store : SessionStore σ) (past : List Step) (s : Step) :
    let d := (start pane store).after past
    Request.of d.session.pane.text (s.flags?.getD d.session.flags) =
      .of (textAt store.opening.code past)
        (s.flags?.getD (flagsAt ⟨store.opening.verify, false⟩ past)) := by
  intro d
  have hsession : d.session = _ := after_session (start pane store) past
  rw [hsession, start_opening, Session.text_after, Session.flags_after]
  rfl

/-- The requests sent are those of the submissions, numbered in their order. -/
theorem sent_after (pane : Pane) (store : SessionStore σ) (history : List Step) :
    ((start pane store).after history).sent =
      numbered (requests store.opening.code ⟨store.opening.verify, false⟩ history) := by
  induction history using List.reverseRecOn with
  | nil => rfl
  | append_singleton past s ih =>
    rw [after_snoc, requests_snoc]
    cases hs : s.submits with
    | false =>
      rw [(take_of_not_submits hs _).1, ih, if_neg Bool.false_ne_true, List.append_nil]
    | true =>
      have hnumber : ((start pane store).after past).session.nextRequest = issued past + 1 := by
        rw [after_session, start_opening]
        exact Session.nextRequest_after _ _ _ past
      rw [(take_of_submits hs _).1, ih, hnumber, request_after, if_pos rfl, numbered_snoc,
        length_requests]

variable [LawfulKeyValue σ]

/-- The store is the one found at first with the documents of the requests written to it. -/
theorem store_after (pane : Pane) (backend : σ) (history : List Step) :
    let saved := SessionStore.opening (some backend)
    ∃ kept, written backend (requests saved.code ⟨saved.verify, false⟩ history) = .ok kept ∧
      ((start pane (some backend)).after history).store = some kept := by
  intro saved
  induction history using List.reverseRecOn with
  | nil => exact ⟨backend, rfl, rfl⟩
  | append_singleton past s ih =>
    obtain ⟨kept, hwritten, hstore⟩ := ih
    rw [after_snoc, requests_snoc]
    cases hs : s.submits with
    | false =>
      rw [if_neg Bool.false_ne_true, List.append_nil, (take_of_not_submits hs _).2]
      exact ⟨kept, hwritten, hstore⟩
    | true =>
      obtain ⟨kept', hset, -⟩ := LawfulKeyValue.set_ok kept Saved.key
        (Saved.document ⟨textAt saved.code past,
          (s.flags?.getD (flagsAt ⟨saved.verify, false⟩ past)).verify⟩)
      refine ⟨kept', ?_, ?_⟩
      · rw [if_pos rfl, written_snoc hwritten]
        exact hset
      · rw [(take_of_submits hs _).2, request_after, hstore]
        exact congrArg Prod.fst (SessionStore.save_of_set hset)

/-- What is sent, what is saved and what a restart finds agree after every history over a store that
keeps what it is given. Each submission sends one request, numbered in order, with the text that is
in the pane at that moment, and nothing else sends or writes anything. The store is written once for
each request: it holds what it held if there was none, and else a document from which the code and
the flag of the last request are read; no other key changes. A session that is started over that
store, in any pane, has the code and the flag of the last request and nothing else of the session
before. -/
theorem submissions_agree (pane : Pane) (backend : σ) (history : List Step) :
    let saved := SessionStore.opening (some backend)
    let d := (start pane (some backend)).after history
    let rs := requests saved.code ⟨saved.verify, false⟩ history
    d.session.pane.text = textAt saved.code history ∧
    d.sent = numbered rs ∧
    (∀ s, s.submits = false → (d.take s).sent = d.sent ∧ (d.take s).store = d.store) ∧
    ∃ kept, d.store = some kept ∧ written backend rs = .ok kept ∧
      (∀ key, key ≠ Saved.key → KeyValue.get kept key = KeyValue.get backend key) ∧
      (rs = [] → KeyValue.get kept Saved.key = KeyValue.get backend Saved.key) ∧
      ∀ r, rs.getLast? = some r →
        (∃ document, KeyValue.get kept Saved.key = .ok (some document) ∧
          Saved.ofText document = .ok ⟨r.code, r.verify⟩) ∧
        ∀ other : Pane,
          let e := start other (some kept)
          e.session =
            { pane := { other with text := r.code }
              document := ⟨r.code, false⟩
              flags := ⟨r.verify, false⟩
              log := []
              overlay := ⟨[]⟩
              lastIssued := none
              status := .idle
              artifact := none
              armed := false } ∧
          e.sent = [] ∧ e.runs = [] ∧ e.warnings = [] := by
  intro saved d rs
  have htext : d.session.pane.text = textAt saved.code history := by
    have hsession : d.session = _ := after_session (start pane (some backend)) history
    rw [hsession, start_opening, Session.text_after]
    rfl
  obtain ⟨kept, hwritten, hstore⟩ := store_after pane backend history
  obtain ⟨kept', hwritten', hothers, hnone, hlast⟩ := written_ok backend rs
  obtain rfl : kept' = kept := Except.ok.inj (hwritten'.symm.trans hwritten)
  refine ⟨htext, sent_after pane (some backend) history, fun s hs => take_of_not_submits hs d,
    kept', hstore, hwritten, hothers, fun h => by rw [hnone h], fun r hr => ?_⟩
  have hget := hlast r hr
  refine ⟨⟨_, hget, Saved.ofText_document ⟨r.code, r.verify⟩⟩, fun other => ?_⟩
  have hload := SessionStore.load_of_get hget
  intro e
  have hopening : SessionStore.opening (some kept') = ⟨r.code, r.verify⟩ := by
    unfold SessionStore.opening
    rw [hload]
    rfl
  refine ⟨?_, rfl, rfl, congrArg Prod.snd hload⟩
  show (start other (some kept')).session = _
  rw [start_opening, hopening]
  rfl

end Desk

/-- The owner of the pane replaces its text behind the back of the session, between an edit and two
submissions. -/
def changedUnnoticed : List Step :=
  [.edit "a", .host (.setText "b"), .setFlags ⟨true, true⟩, .compile, .submit ⟨false, true⟩]

theorem submissions_agree_changedUnnoticed :
    let d := (Desk.start (.ofText "") (some Memory.empty)).after changedUnnoticed
    LawfulKeyValue Memory ∧ d.sent = [(1, ⟨"b", true, true⟩), (2, ⟨"b", false, true⟩)] ∧
      ∃ kept, d.store = some kept ∧ ∃ document, KeyValue.get kept "whileylabs" = .ok (some document) ∧
        Saved.ofText document = .ok ⟨"b", false⟩ := by
  intro d
  obtain ⟨-, hsent, -, kept, hstore, -, -, -, hlast⟩ :=
    Desk.submissions_agree (.ofText "") Memory.empty changedUnnoticed
  exact ⟨inferInstance, hsent, kept, hstore, (hlast ⟨"b", false, true⟩ rfl).1⟩

end CompileSession
