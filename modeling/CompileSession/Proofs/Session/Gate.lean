import CompileSession.Proofs.Session.History

/-!
# Which program may be run

A session keeps the program of its last success and, apart from it, whether it may be run. Five
operations set these two, each on its own. `Armed` says what they come to by the history alone: the
program is that of a first response to the latest request, a success, with no edit and no submission
since.

Results:
1. `runnable_after_iff`: the program that may be run is the one that the history arms.
2. `runs_only_what_is_armed`: the gate is open exactly when a program is armed; every program handed
   over for running was armed when the run was asked for; and asking for a run changes nothing else.
-/

namespace CompileSession

open History

namespace History

/-- The history ends with `artifact` as the program that may be run: a success brought it as the
first response to the request that was the latest then, and no edit or submission came since. -/
def Armed (history : List Step) (artifact : String) : Prop :=
  ∃ past s since id, history = past ++ s :: since ∧
    s.response? = some (id, .ok (.success artifact)) ∧ Awaits past id ∧
    ∀ later ∈ since, later.submits = false ∧ later.edits = false

/-- The programs run in a history, each with the function that is called: one for each time that a
run was asked for while a program was armed. -/
inductive Calls : List Step → List (String × String) → Prop
  | start : Calls [] []
  | executed {past : List Step} {calls : List (String × String)} {artifact : String}
      {sink : String → String → Except ExecutionError Unit} :
      Calls past calls → Armed past artifact →
      Calls (past ++ [.run sink]) (calls ++ [(artifact, "main")])
  | refused {past : List Step} {calls : List (String × String)}
      {sink : String → String → Except ExecutionError Unit} :
      Calls past calls → (∀ artifact, ¬ Armed past artifact) → Calls (past ++ [.run sink]) calls
  | other {past : List Step} {calls : List (String × String)} {s : Step} :
      Calls past calls → (∀ sink, s ≠ .run sink) → Calls (past ++ [s]) calls

theorem not_armed_nil (artifact : String) : ¬ Armed [] artifact := by
  rintro ⟨past, s, since, id, h, -⟩
  cases past <;> cases h

/-- Step `s` brings `artifact`: it is a success, and the first response to the request that is the
latest. -/
def Brings (past : List Step) (s : Step) (artifact : String) : Prop :=
  ∃ id, s.response? = some (id, .ok (.success artifact)) ∧ Awaits past id

/-- `artifact` was brought, and of the steps since none is one that `ends` tells. -/
def Lasts (ends : Step → Bool) (history : List Step) (artifact : String) : Prop :=
  ∃ past s since, history = past ++ s :: since ∧ Brings past s artifact ∧
    ∀ later ∈ since, ends later = false

section
variable {past : List Step} {s : Step} {artifact : String}

theorem not_brings_of_quiet (hr : s.response? = none) : ¬ Brings past s artifact := by
  rintro ⟨id, h, -⟩
  cases hr.symm.trans h

theorem brings_iff_of_awaits {id : RequestId} {r : Response} (hr : s.response? = some (id, r))
    (ha : Awaits past id) : Brings past s artifact ↔ r = .ok (.success artifact) := by
  constructor
  · rintro ⟨other, h, -⟩
    cases hr.symm.trans h
    rfl
  · rintro rfl
    exact ⟨id, hr, ha⟩

/-- Whatever a response brings, it is of no use if it is not awaited. -/
theorem not_brings_of_not_awaits {id : RequestId} {r : Response} (hr : s.response? = some (id, r))
    (ha : ¬ Awaits past id) : ¬ Brings past s artifact := by
  rintro ⟨other, h, hother⟩
  cases hr.symm.trans h
  exact ha hother

end

/-- The last step brings the program, or it lasted before and the last step does not end it. -/
theorem lasts_snoc_iff (ends : Step → Bool) (past : List Step) (s : Step) (artifact : String) :
    Lasts ends (past ++ [s]) artifact ↔
      Brings past s artifact ∨ (Lasts ends past artifact ∧ ends s = false) := by
  rw [Lasts, exists_split_snoc_iff]
  refine or_congr (and_iff_left fun later h => absurd h List.not_mem_nil) ?_
  constructor
  · rintro ⟨before, first, since, h, hb, hlater⟩
    obtain ⟨hsince, hlast⟩ := List.forall_mem_append.1 hlater
    exact ⟨⟨before, first, since, h, hb, hsince⟩, hlast s List.mem_cons_self⟩
  · rintro ⟨⟨before, first, since, h, hb, hsince⟩, hs⟩
    have hlast : ∀ later ∈ [s], ends later = false := by simpa using hs
    exact ⟨before, first, since, h, hb, List.forall_mem_append.2 ⟨hsince, hlast⟩⟩

theorem armed_iff_lasts (history : List Step) (artifact : String) :
    Armed history artifact ↔ Lasts (fun s => s.submits || s.edits) history artifact := by
  constructor
  · rintro ⟨past, s, since, id, h, hr, ha, hlater⟩
    exact ⟨past, s, since, h, ⟨id, hr, ha⟩, fun later hmem =>
      Bool.or_eq_false_iff.2 (hlater later hmem)⟩
  · rintro ⟨past, s, since, h, ⟨id, hr, ha⟩, hlater⟩
    exact ⟨past, s, since, id, h, hr, ha, fun later hmem =>
      Bool.or_eq_false_iff.1 (hlater later hmem)⟩

/-- A program is armed by the last step, or it was before and the last step leaves it so. -/
theorem armed_snoc_iff (past : List Step) (s : Step) (artifact : String) :
    Armed (past ++ [s]) artifact ↔
      Brings past s artifact ∨ (Armed past artifact ∧ s.submits = false ∧ s.edits = false) := by
  rw [armed_iff_lasts, armed_iff_lasts, lasts_snoc_iff, Bool.or_eq_false_iff]

end History

namespace Session

/-- The program may be run exactly in the state of a success, and then there is one. -/
structure GateHolds (s : Session) : Prop where
  armed_iff : s.armed = true ↔ s.status = .succeeded
  artifact : s.armed = true → ∃ artifact, s.artifact = some artifact

theorem GateHolds.not_armed_of_pending {s : Session} (h : s.GateHolds) {id : RequestId}
    (hp : s.status = .pending id) : s.armed = false := by
  cases ha : s.armed with
  | false => rfl
  | true =>
    have hsucc := h.armed_iff.1 ha
    rw [hp] at hsucc
    cases hsucc

theorem GateHolds.armed_iff_runnable {s : Session} (h : s.GateHolds) :
    s.armed = true ↔ ∃ artifact, s.runnable = some artifact := by
  unfold runnable
  cases ha : s.armed with
  | false => simp
  | true => simpa using h.artifact ha

/-- Whatever a response is, it sets the gate as the status that it leads to says. -/
theorem gateHolds_accept (s : Session) (r : Response) : (s.accept r).GateHolds := by
  obtain e | (artifact | ds | message) := r
  · exact ⟨⟨(fun h => by cases h), (fun h => by cases h)⟩, (fun h => by cases h)⟩
  · exact ⟨⟨fun _ => rfl, fun _ => rfl⟩, fun _ => ⟨artifact, rfl⟩⟩
  · exact ⟨⟨(fun h => by cases h), (fun h => by cases h)⟩, (fun h => by cases h)⟩
  · exact ⟨⟨(fun h => by cases h), (fun h => by cases h)⟩, (fun h => by cases h)⟩

/-- After a response a program may be run exactly if it is what the response brings. -/
theorem runnable_accept_iff (s : Session) (r : Response) (artifact : String) :
    (s.accept r).runnable = some artifact ↔ r = .ok (.success artifact) := by
  obtain e | (other | ds | message) := r
  · exact ⟨(fun h => by cases h), (fun h => by cases h)⟩
  · exact ⟨fun h => by cases h; rfl, fun h => by cases h; rfl⟩
  · exact ⟨(fun h => by cases h), (fun h => by cases h)⟩
  · exact ⟨(fun h => by cases h), (fun h => by cases h)⟩

/-- A session whose gate was just closed, and which is not in the state of a success. -/
theorem gateHolds_of_closed {s : Session} (ha : s.armed = false) (hs : s.status ≠ .succeeded) :
    s.GateHolds :=
  ⟨⟨fun h => absurd (ha ▸ h) Bool.false_ne_true, fun h => absurd h hs⟩,
    fun h => absurd (ha ▸ h) Bool.false_ne_true⟩

theorem afterEdit_ne_succeeded (st : Status) : st.afterEdit ≠ .succeeded := by
  cases st <;> exact Status.noConfusion

theorem GateHolds.take {s : Session} (h : s.GateHolds) (step : Step) : (s.take step).GateHolds := by
  obtain ⟨s', htake, heffect⟩ := take_effect s step
  rw [htake]
  cases heffect with
  | submitted flags => exact gateHolds_of_closed rfl Status.noConfusion
  | edited text => exact gateHolds_of_closed rfl (afterEdit_ne_succeeded s.status)
  | accepted id r => exact gateHolds_accept s.clearView r
  | dropped id r => exact h
  | quiet pane flags => exact ⟨h.armed_iff, h.artifact⟩

theorem gateHolds_after {s : Session} (h : s.GateHolds) (history : List Step) :
    (s.after history).GateHolds := by
  induction history generalizing s with
  | nil => exact h
  | cons step history ih => exact ih (h.take step)

variable (code : String) (verify : Bool) (pane : Pane)

theorem gateHolds_start : (start code verify pane).GateHolds :=
  gateHolds_of_closed rfl Status.noConfusion

/-- The program that may be run is the one that the history arms. -/
theorem runnable_after_iff (history : List Step) (artifact : String) :
    ((start code verify pane).after history).runnable = some artifact ↔
      Armed history artifact := by
  induction history using List.reverseRecOn with
  | nil => exact ⟨(fun h => by cases h), fun h => absurd h (not_armed_nil artifact)⟩
  | append_singleton past step ih =>
    have hgate := gateHolds_after (gateHolds_start code verify pane) past
    have hpending := pending_after_iff code verify pane past
    rw [after_snoc, armed_snoc_iff, ← ih]
    generalize (start code verify pane).after past = s at ih hgate hpending
    obtain ⟨s', htake, heffect⟩ := take_effect s step
    rw [htake]
    cases heffect with
    | submitted flags hsub _ hr =>
      simp only [not_brings_of_quiet hr, hsub, reduceCtorEq, false_and, and_false, or_self,
        iff_false]
      exact fun h => by cases h
    | edited text _ he hr =>
      simp only [not_brings_of_quiet hr, he, reduceCtorEq, and_false, or_self, iff_false]
      exact fun h => by cases h
    | accepted id r hsub he hr hp =>
      -- the response counts, and nothing was armed before
      have hnone : s.runnable ≠ some artifact := by
        simp [runnable, hgate.not_armed_of_pending hp]
      rw [brings_iff_of_awaits hr ((hpending id).1 hp), or_iff_left fun h => hnone h.1]
      exact runnable_accept_iff s.clearView r artifact
    | dropped id r hsub he hr hp =>
      rw [or_iff_right (not_brings_of_not_awaits hr (mt (hpending id).2 hp)), hsub, he]
      simp only [and_true]
    | quiet pane flags hsub he hr =>
      simp only [not_brings_of_quiet hr, hsub, he, false_or, and_true]
      exact Iff.rfl

end Session

namespace Desk

variable {σ : Type}

/-- Asking for a run adds a program to those run at most. -/
theorem run_keeps (sink : String → String → Except ExecutionError Unit) (d : Desk σ) :
    (d.run sink).1 = { d with runs := (d.run sink).1.runs } := by
  unfold run
  split <;> rfl

/-- A run is that of the program that may be run. -/
theorem run_of_runnable {d : Desk σ} {artifact : String} (h : d.session.runnable = some artifact)
    (sink : String → String → Except ExecutionError Unit) :
    (d.run sink).1.runs = d.runs ++ [(artifact, "main")] ∧
      (d.run sink).2 = (sink artifact "main").map fun _ => .executed := by
  unfold run
  rw [h]
  exact ⟨rfl, rfl⟩

/-- Without such a program there is none. -/
theorem run_of_not_runnable {d : Desk σ} (h : d.session.runnable = none)
    (sink : String → String → Except ExecutionError Unit) :
    (d.run sink).1.runs = d.runs ∧ (d.run sink).2 = .ok .disarmed := by
  unfold run
  rw [h]
  exact ⟨rfl, rfl⟩

variable [KeyValue σ]

/-- Only a run adds to the programs run. -/
theorem take_runs {s : Step} (h : ∀ sink, s ≠ .run sink) (d : Desk σ) :
    (d.take s).runs = d.runs := by
  cases s with
  | run sink => exact absurd rfl (h sink)
  | _ => rfl

theorem runnable_after_iff (pane : Pane) (store : SessionStore σ) (history : List Step)
    (artifact : String) :
    ((start pane store).after history).session.runnable = some artifact ↔
      Armed history artifact := by
  obtain ⟨code, verify, h⟩ := start_session pane store
  rw [after_session, h]
  exact Session.runnable_after_iff code verify pane history artifact

theorem runnable_after_eq_none_iff (pane : Pane) (store : SessionStore σ) (history : List Step) :
    ((start pane store).after history).session.runnable = none ↔
      ∀ artifact, ¬ Armed history artifact := by
  simp only [Option.eq_none_iff_forall_ne_some, ne_eq, runnable_after_iff]

theorem calls_after (pane : Pane) (store : SessionStore σ) (history : List Step) :
    Calls history ((start pane store).after history).runs := by
  induction history using List.reverseRecOn with
  | nil => exact .start
  | append_singleton past s ih =>
    rw [after_snoc]
    by_cases hrun : ∃ sink, s = .run sink
    · obtain ⟨sink, rfl⟩ := hrun
      show Calls _ (((start pane store).after past).run sink).1.runs
      cases h : ((start pane store).after past).session.runnable with
      | none =>
        rw [(run_of_not_runnable h sink).1]
        exact .refused ih ((runnable_after_eq_none_iff pane store past).1 h)
      | some artifact =>
        rw [(run_of_runnable h sink).1]
        exact .executed ih ((runnable_after_iff pane store past artifact).1 h)
    · have hother : ∀ sink, s ≠ .run sink := fun sink h => hrun ⟨sink, h⟩
      rw [take_runs hother]
      exact .other ih hother

/-- The gate is open exactly when the history arms a program, which is then the only one. The
programs handed over for running are those armed when a run was asked for. A run is refused if no
program is armed, and else it comes to what the system says of that program; either way the session
with its pane and log, the store, the requests and the warnings stay as they are. -/
theorem runs_only_what_is_armed (pane : Pane) (store : SessionStore σ) (history : List Step) :
    let d := (start pane store).after history
    (d.session.armed = true ↔ ∃ artifact, Armed history artifact) ∧
    (∀ artifact other, Armed history artifact → Armed history other → artifact = other) ∧
    Calls history d.runs ∧
    ∀ sink,
      (∀ artifact, Armed history artifact →
        (d.run sink).1.runs = d.runs ++ [(artifact, "main")] ∧
        (d.run sink).2 = (sink artifact "main").map fun _ => .executed) ∧
      ((∀ artifact, ¬ Armed history artifact) →
        (d.run sink).1.runs = d.runs ∧ (d.run sink).2 = .ok .disarmed) ∧
      (d.run sink).1.session = d.session ∧ (d.run sink).1.store = d.store ∧
      (d.run sink).1.sent = d.sent ∧ (d.run sink).1.warnings = d.warnings := by
  intro d
  have hrunnable := runnable_after_iff pane store history
  have hgate : d.session.GateHolds := by
    obtain ⟨code, verify, h⟩ := start_session pane store
    show ((start pane store).after history).session.GateHolds
    rw [after_session, h]
    exact Session.gateHolds_after (Session.gateHolds_start code verify pane) history
  refine ⟨?_, ?_, calls_after pane store history, fun sink => ⟨?_, ?_, ?_⟩⟩
  · rw [hgate.armed_iff_runnable]
    exact exists_congr hrunnable
  · intro artifact other h h'
    rw [← hrunnable] at h h'
    exact Option.some.inj (h.symm.trans h')
  · exact fun artifact h => run_of_runnable ((hrunnable artifact).2 h) sink
  · exact fun h => run_of_not_runnable ((runnable_after_eq_none_iff pane store history).2 h) sink
  · rw [run_keeps]
    exact ⟨rfl, rfl, rfl, rfl⟩

end Desk

end CompileSession
