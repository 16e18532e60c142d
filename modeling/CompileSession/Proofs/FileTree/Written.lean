import CompileSession.Command.Invocation

/-!
# Files that are left alone

Which files of a tree are written while a store is opened, kept and closed: the file of its
database, and beside it the two that a database has while it is open. A path that leads to another
file leads there all the while.

Results:
1. `FileTree.Written.read`: the text of a file that was not written is read as it was.
2. `FileTree.Written.openStore_during` and `FileTree.Written.openStore_after`: which files are
   written while a store is open, and by the time that it is closed.
-/

namespace CompileSession

namespace FileTree

variable {t : FileTree} {path : String} {steps : List String}

/-! ## Putting a file -/

theorem node?_put_of_ne {others : List String} (h : fullPath others ≠ fullPath steps)
    (content : FileContent) : (t.put steps content).node? others = t.node? others := by
  rw [node?_put, if_neg h]
  rfl

/-- A file that is put where there is no folder makes no folder, and takes none away. -/
theorem node?_put_folder_iff (hsteps : t.node? steps ≠ some .folder) (content : FileContent)
    (others : List String) :
    (t.put steps content).node? others = some .folder ↔ t.node? others = some .folder := by
  by_cases hhere : t.here.take others.length = others
  · rw [node?_put, if_pos hhere]
    unfold node?
    rw [if_pos hhere]
  · by_cases hne : fullPath others = fullPath steps
    · rw [node?_put, if_neg hhere, if_pos hne]
      unfold node? at hsteps ⊢
      rw [if_neg hhere, hne]
      split at hsteps
      · exact absurd rfl hsteps
      · exact ⟨(fun h => by cases h), fun h => absurd h hsteps⟩
    · rw [node?_put_of_ne hne]

/-- A place that is not the file at the end of some steps. -/
def Place.Avoids (steps : List String) : Place → Prop
  | .folder _ => True
  | .file others _ => fullPath others ≠ fullPath steps

/-- A step that does not end at a file is the same after something was put there. -/
theorem step_put (hsteps : t.node? steps ≠ some .folder) {place next : Place} {name : List Char}
    (hstep : t.step place name = .ok next) (hnext : next.Avoids steps) (content : FileContent) :
    (t.put steps content).step place name = .ok next := by
  cases place with
  | file _ _ => cases hstep
  | folder base =>
    unfold step at hstep ⊢
    simp only at hstep ⊢
    split at hstep
    · rename_i hstay
      rw [if_pos hstay]
      exact hstep
    rename_i hstay
    rw [if_neg hstay]
    split at hstep
    · rename_i hback
      rw [if_pos hback]
      exact hstep
    rename_i hback
    rw [if_neg hback]
    split at hstep
    · cases hstep
    rename_i hlong
    rw [if_neg hlong]
    cases hnode : t.node? (base ++ [String.ofList name]) with
    | none =>
      rw [hnode] at hstep
      cases hstep
    | some node =>
      rw [hnode] at hstep
      cases node with
      | folder =>
        rw [(node?_put_folder_iff hsteps content _).2 hnode]
        exact hstep
      | file found =>
        cases hstep
        rw [node?_put_of_ne hnext, hnode]

theorem foldlM_step_put (hsteps : t.node? steps ≠ some .folder) {names : List (List Char)}
    {place last : Place} (hwalk : names.foldlM t.step place = .ok last)
    (hlast : last.Avoids steps) (content : FileContent) :
    names.foldlM (t.put steps content).step place = .ok last := by
  induction names generalizing place with
  | nil => exact hwalk
  | cons name names ih =>
    rw [List.foldlM_cons] at hwalk ⊢
    cases hstep : t.step place name with
    | error fault =>
      rw [hstep] at hwalk
      cases hwalk
    | ok next =>
      rw [hstep] at hwalk
      have hnext : next.Avoids steps := by
        -- a walk that goes on has not come to a file
        cases next with
        | folder _ => trivial
        | file _ _ =>
          cases names with
          | nil =>
            cases hwalk
            exact hlast
          | cons _ _ => cases hwalk
      rw [step_put hsteps hstep hnext content]
      exact ih hwalk

/-- A walk that does not end at a file is the same after something was put there. -/
theorem walk_put (hsteps : t.node? steps ≠ some .folder) {place : Place}
    (hwalk : t.walk path = .ok place) (hplace : place.Avoids steps) (content : FileContent) :
    (t.put steps content).walk path = .ok place := by
  unfold walk at hwalk ⊢
  simp only at hwalk ⊢
  split at hwalk
  · cases hwalk
  rename_i hlong
  split at hwalk
  · cases hwalk
  rename_i hempty
  rw [if_neg hlong, if_neg hempty]
  exact foldlM_step_put hsteps hwalk hplace content

/-! ## Trees that differ in some files -/

/-- Only some files were written to get from one tree to the other. -/
inductive Written (files : List (List String)) (t : FileTree) : FileTree → Prop
  | same : Written files t t
  | put {t' : FileTree} {steps : List String} {content : FileContent} :
      Written files t t' → steps ∈ files → Written files t (t'.put steps content)

section
variable {files : List (List String)} {t' : FileTree}

/-- What a path leads to is what it led to, unless that is a file that was written. -/
theorem Written.walk (h : Written files t t') (hfiles : ∀ f ∈ files, t.node? f ≠ some .folder)
    {place : Place} (hwalk : t.walk path = .ok place) (hplace : ∀ f ∈ files, place.Avoids f) :
    t'.walk path = .ok place ∧ ∀ f ∈ files, t'.node? f ≠ some .folder := by
  induction h with
  | same => exact ⟨hwalk, hfiles⟩
  | @put t' steps content _ hsteps ih =>
    obtain ⟨hwalk', hfiles'⟩ := ih
    have hfree := hfiles' steps hsteps
    refine ⟨walk_put hfree hwalk' (hplace steps hsteps) content, fun f hf => ?_⟩
    exact mt (node?_put_folder_iff hfree content f).1 (hfiles' f hf)

/-- The text of a file that was not written is read as it was. -/
theorem Written.read (h : Written files t t') (hfiles : ∀ f ∈ files, t.node? f ≠ some .folder)
    {away : List String} {content : FileContent} (hwalk : t.walk path = .ok (.file away content))
    (haway : ∀ f ∈ files, fullPath away ≠ fullPath f) :
    t'.read path = content.text? := by
  have hthere := (h.walk hfiles hwalk haway).1
  unfold FileTree.read
  rw [hthere]

/-! ## What opening a database writes -/

theorem Written.connectFile (n : DatabaseName) (hsteps : steps ∈ files) :
    Written files t (t.connectFile path n steps).2 := by
  unfold FileTree.connectFile
  split
  · exact .same
  split
  · exact .same
  · exact .same
  · split
    · exact .put .same hsteps
    · exact .same

theorem Written.connect (hfile : ∀ steps ∈ t.databaseFile? path, steps ∈ files) :
    Written files t (t.connect path).2 := by
  unfold databaseFile? at hfile
  unfold FileTree.connect
  cases hn : DatabaseName.ofPath path with
  | error e => exact .same
  | ok n =>
    cases hp : n.place with
    | file name =>
      simp only [hp]
      cases hsteps : t.databaseSteps? name with
      | none => exact .same
      | some steps => exact .connectFile n (hfile steps (by simp [hn, hp, hsteps, Except.toOption]))
    | named name =>
      simp only [hp]
      split
      · exact .same
      · exact .same
    | _ => simp only [hp]; exact .same

variable {file : Option (List String)}

theorem Written.keepIn (h : Written files t t') (hfile : ∀ steps ∈ file, steps ∈ files)
    (c : Connection) : Written files t (t'.keepIn file c) := by
  unfold FileTree.keepIn
  split
  · exact .put h (hfile _ rfl)
  · exact h

theorem Written.keepStore (h : Written files t t') (hfile : ∀ steps ∈ file, steps ∈ files)
    (store : SessionStore Connection) : Written files t (t'.keepStore file store) := by
  cases store with
  | none => exact h
  | some c => exact h.keepIn hfile c

/-- The files that a database is in while it is open. -/
def databaseFiles (steps : List String) : List (List String) :=
  [steps, beside steps "-wal", beside steps "-shm"]

theorem Written.whileOpen (h : Written files t t')
    (hfile : ∀ steps ∈ file, databaseFiles steps ⊆ files) (c : Connection) :
    Written files t (t'.whileOpen file c) := by
  unfold FileTree.whileOpen
  split
  · have hfiles := hfile _ rfl
    split
    · refine .put (.put (.put h ?_) ?_) ?_
      · exact hfiles (.head _)
      · exact hfiles (.tail _ (.head _))
      · exact hfiles (.tail _ (.tail _ (.head _)))
    · exact h
  · exact h.keepIn (fun steps hsteps => hfile steps hsteps (.head _)) c

theorem openStore_file : (t.openStore path).file = t.databaseFile? path := by
  unfold openStore
  split <;> rfl

theorem Written.openStore_during
    (hfile : ∀ steps ∈ t.databaseFile? path, databaseFiles steps ⊆ files) :
    Written files t (t.openStore path).during := by
  have hopen : Written files t (t.connect path).2 :=
    .connect fun steps hsteps => hfile steps hsteps (.head _)
  unfold openStore
  split
  · rename_i hconnect
    rw [hconnect] at hopen
    exact hopen.whileOpen hfile _
  · rename_i hconnect
    rw [hconnect] at hopen
    exact hopen

theorem Written.openStore_after (hfile : ∀ steps ∈ t.databaseFile? path, steps ∈ files) :
    Written files t (t.openStore path).after := by
  have hopen : Written files t (t.connect path).2 := .connect hfile
  unfold openStore
  split
  · rename_i hconnect
    rw [hconnect] at hopen
    exact hopen.keepIn hfile _
  · rename_i hconnect
    rw [hconnect] at hopen
    exact hopen

end

end FileTree

end CompileSession
