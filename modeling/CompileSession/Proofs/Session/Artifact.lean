import CompileSession.Proofs.Session.Gate
import CompileSession.Proofs.Session.View

/-!
# The program a session keeps

A session that was answered by a success keeps the program until something replaces or drops it:
the next submission, or an answer of another kind. An edit closes the gate and leaves the program
where it is, so after an edit there is a program that may not be run.

Results:
1. `Session.artifact_after_iff`: the program kept is the one that the latest request was answered
   with.
2. `Desk.artifact_kept_until_submission`: it may be run exactly if the last event of the history is
   no edit.
3. `artifact_outlasts_edit`: after an edit it is kept and may not be run.
-/

namespace CompileSession

open History

/-- The latest request was answered with `artifact`, a success. Edits since do not count. -/
def History.Compiled (history : List Step) (artifact : String) : Prop :=
  Lasts Step.submits history artifact

theorem History.not_compiled_nil (artifact : String) : ¬ Compiled [] artifact := by
  rintro ⟨past, s, since, h, -⟩
  cases past <;> cases h

namespace Session

/-! ## Which program is kept -/

/-- After a response a program is kept exactly if it is what the response brings. -/
theorem artifact_accept_iff (s : Session) (r : Response) (artifact : String) :
    (s.accept r).artifact = some artifact ↔ r = .ok (.success artifact) := by
  obtain e | (other | ds | message) := r
  · exact ⟨(fun h => by cases h), (fun h => by cases h)⟩
  · exact ⟨fun h => by cases h; rfl, fun h => by cases h; rfl⟩
  · exact ⟨(fun h => by cases h), (fun h => by cases h)⟩
  · exact ⟨(fun h => by cases h), (fun h => by cases h)⟩

/-- While an answer is awaited there is no program: the submission dropped it. -/
def NoneWhilePending (s : Session) : Prop := ∀ id, s.status = .pending id → s.artifact = none

theorem NoneWhilePending.take {s : Session} (h : s.NoneWhilePending) (step : Step) :
    (s.take step).NoneWhilePending := by
  obtain ⟨s', htake, heffect⟩ := take_effect s step
  rw [htake]
  cases heffect with
  | submitted flags => exact fun _ _ => rfl
  | edited text => exact fun id hid => h id ((afterEdit_eq_pending_iff s.status id).1 hid)
  | accepted other r => exact fun id hid => absurd hid (accept_status_ne_pending s.clearView r id)
  | dropped => exact h
  | quiet pane flags => exact h

theorem noneWhilePending_after {s : Session} (h : s.NoneWhilePending) (history : List Step) :
    (s.after history).NoneWhilePending := by
  induction history generalizing s with
  | nil => exact h
  | cons step history ih => exact ih (h.take step)

variable (code : String) (verify : Bool) (pane : Pane)

theorem noneWhilePending_start : (start code verify pane).NoneWhilePending := fun _ _ => rfl

/-- The program kept is the one that the latest request was answered with. -/
theorem artifact_after_iff (history : List Step) (artifact : String) :
    ((start code verify pane).after history).artifact = some artifact ↔
      Compiled history artifact := by
  induction history using List.reverseRecOn with
  | nil => exact ⟨(fun h => by cases h), fun h => absurd h (not_compiled_nil artifact)⟩
  | append_singleton past step ih =>
    have hnone := noneWhilePending_after (noneWhilePending_start code verify pane) past
    have hpending := pending_after_iff code verify pane past
    rw [after_snoc, Compiled, lasts_snoc_iff, ← Compiled, ← ih]
    generalize (start code verify pane).after past = s at ih hnone hpending
    obtain ⟨s', htake, heffect⟩ := take_effect s step
    rw [htake]
    cases heffect with
    | submitted flags hsub _ hr =>
      simp only [not_brings_of_quiet hr, hsub, reduceCtorEq, and_false, or_self, iff_false]
      exact fun h => by cases h
    | edited text hsub _ hr =>
      simp only [not_brings_of_quiet hr, hsub, false_or, and_true]
      exact Iff.rfl
    | accepted id r hsub _ hr hp =>
      -- the response counts, and no program was kept before
      rw [brings_iff_of_awaits hr ((hpending id).1 hp), hnone id hp,
        or_iff_left fun h => Option.some_ne_none _ h.1.symm]
      exact artifact_accept_iff s.clearView r artifact
    | dropped id r hsub _ hr hp =>
      rw [or_iff_right (not_brings_of_not_awaits hr (mt (hpending id).2 hp)), hsub,
        and_iff_left rfl]
    | quiet pane flags hsub _ hr =>
      simp only [not_brings_of_quiet hr, hsub, false_or, and_true]

/-! ## Whether it may be run -/

/-- A program that is kept may be run exactly if the last event is no edit. -/
def RunsUnlessEdited (s : Session) (e : Option Event) : Prop :=
  ∀ artifact, s.artifact = some artifact → (s.armed = true ↔ e ≠ some .edit)

theorem runsUnlessEdited_accept (s : Session) (r : Response) :
    (s.accept r).RunsUnlessEdited (some (.response r)) := by
  intro artifact h
  cases (artifact_accept_iff s r artifact).1 h
  exact ⟨(fun _ he => by cases he), fun _ => rfl⟩

theorem RunsUnlessEdited.take {s : Session} {past : List Step} {e : Option Event}
    (h : s.RunsUnlessEdited e) (hpending : ∀ id, s.status = .pending id ↔ Awaits past id)
    (step : Step) : (s.take step).RunsUnlessEdited ((event? past step).or e) := by
  obtain ⟨s', htake, heffect⟩ := take_effect s step
  rw [htake]
  cases heffect with
  | submitted flags => exact fun _ hnone => by cases hnone
  | edited text _ he =>
    rw [event?_of_edits he]
    exact fun _ _ => ⟨fun hopen => Bool.noConfusion hopen, fun hne => absurd rfl hne⟩
  | accepted id r hsub he hr hp =>
    rw [event?_of_response hsub he hr, if_pos ((hpending id).1 hp)]
    exact runsUnlessEdited_accept s.clearView r
  | dropped id r hsub he hr hp =>
    rw [event?_of_response hsub he hr, if_neg (mt (hpending id).2 hp)]
    exact h
  | quiet pane flags hsub he hr =>
    rw [event?_of_quiet hsub he hr]
    exact h

theorem runsUnlessEdited_after (history : List Step) :
    ((start code verify pane).after history).RunsUnlessEdited (lastEvent history) := by
  induction history using List.reverseRecOn with
  | nil => exact fun _ h => by cases h
  | append_singleton past step ih =>
    rw [after_snoc, lastEvent_snoc]
    exact ih.take (pending_after_iff code verify pane past) step

end Session

/-- The program kept is the one that the latest request was answered with, whatever was edited
since. Where a program may be run, one is kept; and one that is kept may be run exactly if the last
event is no edit. So unless that is an edit, a program is kept exactly if it may be run. -/
theorem Desk.artifact_kept_until_submission {σ : Type} [KeyValue σ] (pane : Pane)
    (store : SessionStore σ) (history : List Step) :
    let s := ((Desk.start pane store).after history).session
    (∀ artifact, s.artifact = some artifact ↔ Compiled history artifact) ∧
    (s.armed = true → ∃ artifact, s.artifact = some artifact) ∧
    (∀ artifact, s.artifact = some artifact →
      (s.armed = true ↔ lastEvent history ≠ some .edit)) ∧
    (lastEvent history ≠ some .edit →
      ((∃ artifact, s.artifact = some artifact) ↔ s.armed = true)) := by
  obtain ⟨code, verify, hstart⟩ := Desk.start_session pane store
  intro s
  have hs : s = (Session.start code verify pane).after history := by
    rw [← hstart]
    exact Desk.after_session _ history
  have hgate := Session.gateHolds_after (Session.gateHolds_start code verify pane) history
  have hruns := Session.runsUnlessEdited_after code verify pane history
  rw [← hs] at hgate hruns
  refine ⟨fun artifact => ?_, hgate.artifact, hruns, fun hlast => ⟨?_, hgate.artifact⟩⟩
  · rw [hs]
    exact Session.artifact_after_iff code verify pane history artifact
  · rintro ⟨artifact, hkept⟩
    exact (hruns artifact hkept).2 hlast

/-- A success, and then an edit. -/
def History.compiledThenEdited : List Step :=
  [.submit ⟨false, false⟩, .deliver 1 (.response (.ok (.success "function main(){}"))), .edit "y"]

/-- An edit makes the program outdated, and still it is kept. -/
theorem artifact_outlasts_edit :
    ¬ ∀ (pane : Pane) (store : SessionStore Memory) (history : List Step),
      let s := ((Desk.start pane store).after history).session
      (∃ artifact, s.artifact = some artifact) ↔ s.armed = true := by
  intro h
  have harmed := (h (.ofText "") none compiledThenEdited).1 ⟨"function main(){}", rfl⟩
  exact Bool.noConfusion harmed

end CompileSession
