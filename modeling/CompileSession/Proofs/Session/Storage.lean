import CompileSession.Proofs.Session.Dispatch
import CompileSession.Proofs.Session.Gate
import CompileSession.Store.Backend

/-!
# What a store has no say in

A session reads its store once, when it starts, and from then on only writes to it. So of two
desks that start with the same session, neither the sessions nor what is sent, run and given back
can be told apart, whatever their stores are and whatever becomes of them: a backend may fail at
some calls and not at others, lose what it held, or not be there at all.

`afterAmid` is a history during which the store is not left to the desk: before each step it may
turn into any other, so the next write to it succeeds or fails as it will.

Results:
1. `Alike.take` and `Alike.restock`: a step keeps two desks alike, and so does what becomes of their
   stores.
2. `store_stays_unseen`: the same history leaves them alike, and each step gives back the same.
-/

namespace CompileSession

/-- Whether a warning is about the store. -/
def Warning.ofStore : Warning → Bool
  | .saveFailed => true
  | .readFailed => true
  | .documentUnreadable => true
  | _ => false

/-- What a step gives back to the one who takes it. -/
inductive Returned where
  | nothing
  | request (id : RequestId)
  | ran (result : Except ExecutionError RunOutcome)

namespace Desk

section
variable {σ : Type} [KeyValue σ]

/-- What a step at a desk gives back. -/
def returns (d : Desk σ) : Step → Returned
  | .submit _ => .request d.session.nextRequest
  | .compile => .request d.session.nextRequest
  | .run sink => .ran (d.run sink).2
  | _ => .nothing

/-- A desk whose store turned into another one. -/
def restock (change : SessionStore σ → SessionStore σ) (d : Desk σ) : Desk σ :=
  { d with store := change d.store }

/-- A desk after a history during which its store changes: before the step that `n` others
precede, it turns into what `change n` makes of it. -/
def afterAmid (change : Nat → SessionStore σ → SessionStore σ) (d : Desk σ)
    (history : List Step) : Desk σ :=
  history.zipIdx.foldl (fun d (s, n) => (d.restock (change n)).take s) d

theorem afterAmid_snoc (change : Nat → SessionStore σ → SessionStore σ) (d : Desk σ)
    (past : List Step) (s : Step) :
    d.afterAmid change (past ++ [s]) =
      ((d.afterAmid change past).restock (change past.length)).take s := by
  simp [afterAmid, List.zipIdx_append]

/-- Nothing is different from a plain history if the store is left alone. -/
theorem afterAmid_id (d : Desk σ) (history : List Step) :
    d.afterAmid (fun _ => id) history = d.after history := by
  induction history using List.reverseRecOn with
  | nil => rfl
  | append_singleton past s ih =>
    rw [afterAmid_snoc, after_snoc, ih]
    rfl

end

end Desk

/-! ## Warnings about the store -/

namespace SessionStore

variable {σ : Type} [KeyValue σ] (store : SessionStore σ)

/-- All that loading notes is about the store. -/
theorem load_warnings : store.load.2.filter (!·.ofStore) = [] := by
  unfold load
  split
  · rfl
  · split
    · rfl
    · rfl
    · split <;> rfl

/-- All that saving notes is about the store. -/
theorem save_warnings (s : Saved) : (store.save s).2.filter (!·.ofStore) = [] := by
  unfold save
  split
  · rfl
  · split <;> rfl

end SessionStore

/-! ## Desks that are alike -/

namespace Desk

variable {σ τ : Type}

/-- Two desks that differ in their stores at most, and in the warnings about them. -/
structure Alike (d : Desk σ) (e : Desk τ) : Prop where
  session : d.session = e.session
  sent : d.sent = e.sent
  runs : d.runs = e.runs
  warnings : d.warnings.filter (!·.ofStore) = e.warnings.filter (!·.ofStore)

variable {d : Desk σ} {e : Desk τ}

/-- What becomes of their stores does not tell desks apart. -/
theorem Alike.restock (h : d.Alike e) (f : SessionStore σ → SessionStore σ)
    (g : SessionStore τ → SessionStore τ) : (d.restock f).Alike (e.restock g) :=
  ⟨h.session, h.sent, h.runs, h.warnings⟩

theorem Alike.within (h : d.Alike e) (change : Session → Session) :
    (d.within change).Alike (e.within change) :=
  ⟨congrArg change h.session, h.sent, h.runs, h.warnings⟩

theorem Alike.note (h : d.Alike e) (more : List Warning) : (d.note more).Alike (e.note more) where
  session := h.session
  sent := h.sent
  runs := h.runs
  warnings := by
    show (d.warnings ++ more).filter _ = (e.warnings ++ more).filter _
    rw [List.filter_append, List.filter_append, h.warnings]

theorem Alike.deliver (h : d.Alike e) (id : RequestId) (delivery : Delivery) :
    (d.deliver id delivery).Alike (e.deliver id delivery) := by
  unfold Desk.deliver
  rw [h.session]
  exact (h.within _).note _

/-- A run is that of the program of the session, which is the same. -/
theorem Alike.run (h : d.Alike e) (sink : String → String → Except ExecutionError Unit) :
    (d.run sink).1.Alike (e.run sink).1 ∧ (d.run sink).2 = (e.run sink).2 := by
  have hrun : (d.run sink).1.runs = (e.run sink).1.runs ∧ (d.run sink).2 = (e.run sink).2 := by
    cases hprogram : e.session.runnable with
    | none =>
      obtain ⟨hruns, hresult⟩ := run_of_not_runnable hprogram sink
      obtain ⟨hruns', hresult'⟩ := run_of_not_runnable (h.session ▸ hprogram) sink
      exact ⟨by rw [hruns, hruns', h.runs], hresult'.trans hresult.symm⟩
    | some artifact =>
      obtain ⟨hruns, hresult⟩ := run_of_runnable hprogram sink
      obtain ⟨hruns', hresult'⟩ := run_of_runnable (h.session ▸ hprogram) sink
      exact ⟨by rw [hruns, hruns', h.runs], hresult'.trans hresult.symm⟩
  rw [run_keeps sink d, run_keeps sink e]
  exact ⟨⟨h.session, h.sent, hrun.1, h.warnings⟩, hrun.2⟩

/-- A step at desks that are alike gives back the same. -/
theorem Alike.returns (h : d.Alike e) (s : Step) : d.returns s = e.returns s := by
  cases s with
  | submit flags => exact congrArg (fun s => Returned.request s.nextRequest) h.session
  | compile => exact congrArg (fun s => Returned.request s.nextRequest) h.session
  | run sink => exact congrArg Returned.ran (h.run sink).2
  | _ => rfl

variable [KeyValue σ] [KeyValue τ]

/-- Desks over stores with which the same session opens start alike. -/
theorem alike_start (pane : Pane) {s : SessionStore σ} {t : SessionStore τ}
    (h : s.opening = t.opening) : (start pane s).Alike (start pane t) where
  session := by rw [start_opening, start_opening, h]
  sent := rfl
  runs := rfl
  warnings := s.load_warnings.trans t.load_warnings.symm

/-- Whether saving succeeds shows in the store and in the warnings about it only. -/
theorem Alike.submit (h : d.Alike e) (flags : Flags) : (d.submit flags).Alike (e.submit flags) where
  session := congrArg (Session.submit flags) h.session
  sent := by
    show d.sent ++ [(_, (d.session.submit flags).request)] =
      e.sent ++ [(_, (e.session.submit flags).request)]
    rw [h.sent, h.session]
  runs := h.runs
  warnings := by
    show (d.warnings ++ (d.store.save _).2).filter _ = (e.warnings ++ (e.store.save _).2).filter _
    rw [List.filter_append, List.filter_append, SessionStore.save_warnings,
      SessionStore.save_warnings, h.warnings]

/-- A step at desks that are alike leaves them alike. -/
theorem Alike.take (h : d.Alike e) (s : Step) : (d.take s).Alike (e.take s) := by
  cases s with
  | notice => exact h.within _
  | edit text => exact h.within _
  | host change => exact h.within _
  | submit flags => exact h.submit flags
  | compile =>
    show (d.submit d.session.flags).Alike (e.submit e.session.flags)
    rw [h.session]
    exact h.submit _
  | setFlags flags => exact h.within _
  | run sink => exact (h.run sink).1
  | deliver id delivery => exact h.deliver id delivery
  | body id text => exact (h.note _).deliver id _

/-- What stores hold, and whether they can be read and written, stays unseen but for the session
that they open with. Two desks whose stores load the same session, or none, stay alike through
every history, with the same session, requests and runs, and every next step gives back the same,
even though the stores turn into any others on the way. A store that loads none is then as good as
one that loads the default document, not to be verified. -/
theorem store_stays_unseen (pane : Pane) (s : SessionStore σ) (t : SessionStore τ)
    (h : s.load.1 = t.load.1 ∨
      (s.load.1 = none ∧ t.load.1 = some ⟨defaultDocument, false⟩))
    (f : Nat → SessionStore σ → SessionStore σ) (g : Nat → SessionStore τ → SessionStore τ)
    (history : List Step) :
    let d := (start pane s).afterAmid f history
    let e := (start pane t).afterAmid g history
    d.session = e.session ∧ d.sent = e.sent ∧ d.runs = e.runs ∧
      d.warnings.filter (!·.ofStore) = e.warnings.filter (!·.ofStore) ∧
      ∀ next, (d.restock (f history.length)).returns next =
        (e.restock (g history.length)).returns next := by
  have hopening : s.opening = t.opening := by
    unfold SessionStore.opening
    rcases h with hsame | ⟨hnone, hdefault⟩
    · rw [hsame]
    · rw [hnone, hdefault]
      rfl
  have halike :
      ((start pane s).afterAmid f history).Alike ((start pane t).afterAmid g history) := by
    induction history using List.reverseRecOn with
    | nil => exact alike_start pane hopening
    | append_singleton past step ih =>
      rw [afterAmid_snoc, afterAmid_snoc]
      exact (ih.restock _ _).take step
  intro d e
  exact ⟨halike.session, halike.sent, halike.runs, halike.warnings,
    fun next => (halike.restock _ _).returns next⟩

end Desk

/-- A store that cannot be read at first, and written only before every other step. -/
def faulty : Flaky Memory := ⟨.empty, some (.migration "disk on fire"), none⟩

/-- Lets the writes of a store fail before every other step. -/
def everyOther (n : Nat) (store : SessionStore (Flaky Memory)) : SessionStore (Flaky Memory) :=
  store.map fun backend =>
    { backend with setFault := if n % 2 = 0 then some (.engine "database is locked") else none }

/-- A store that holds something else than a saved session. -/
def unreadable : Memory := Memory.empty.insert Saved.key "\x7bnot json"

theorem store_stays_unseen_unreadable :
    let history : List Step :=
      [.submit ⟨true, false⟩, .compile, .deliver 2 (.response (.ok (.success "a()")))]
    let d := (Desk.start (.ofText "") (some faulty)).afterAmid everyOther history
    let e := (Desk.start (.ofText "") (some unreadable)).after history
    (SessionStore.load (some faulty)).1 = (SessionStore.load (some unreadable)).1 ∧
      d.warnings ≠ e.warnings ∧ d.session = e.session ∧ d.session.armed = true := by
  intro history d e
  have hload : (SessionStore.load (some faulty)).1 = (SessionStore.load (some unreadable)).1 := rfl
  obtain ⟨hsession, -⟩ := Desk.store_stays_unseen (.ofText "") (some faulty) (some unreadable)
    (.inl hload) everyOther (fun _ => id) history
  rw [Desk.afterAmid_id] at hsession
  exact ⟨hload, by decide, hsession, rfl⟩

end CompileSession
