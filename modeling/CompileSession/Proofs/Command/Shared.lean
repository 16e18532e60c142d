import CompileSession.Command.Invocation
import CompileSession.Proofs.Store.Kept

/-!
# Databases in a tree of files

What `FileTree.openStore` and `FileTree.keepStore` do to the file of a database, at the end of the
steps to which its path leads.

Results:
1. `FileTree.openStore_holds`: opening a database gives its rows, and leaves them in the file.
2. `FileTree.rows?_keepStore`: writing back puts the rows of the connection into the file.
3. `FileTree.connect_of_plain`: a path without options can be opened again and again.
-/

namespace CompileSession

/-- The rows of the database that is found, or that is made if nothing is found. There are none if
no database can be there. -/
def Node.rows? : Option Node → Option (List Row)
  | none => some []
  | some (.file content) => content.medium.rows?
  | some .folder => none

namespace FileTree

variable {t : FileTree} {path : String} {steps : List String}

theorem node?_put_self (h : t.here.take steps.length ≠ steps) (content : FileContent) :
    (t.put steps content).node? steps = some (.file content) := by
  rw [node?_put, if_neg h, if_pos rfl]

theorem here_ne_of_node? (h : t.node? steps ≠ some .folder) : t.here.take steps.length ≠ steps := by
  intro heq
  apply h
  unfold node?
  exact if_pos heq

/-- The store at a path that leads to a file is opened in that file. -/
theorem connect_of_databaseFile? (h : t.databaseFile? path = some steps) :
    ∃ n, DatabaseName.ofPath path = .ok n ∧ t.connect path = t.connectFile path n steps := by
  unfold databaseFile? at h
  cases hn : DatabaseName.ofPath path with
  | error e =>
    rw [hn] at h
    cases h
  | ok n =>
    rw [hn] at h
    refine ⟨n, rfl, ?_⟩
    unfold connect
    rw [hn]
    cases hp : n.place with
    | file file =>
      have hsteps : t.databaseSteps? file = some steps := by
        simpa [Except.toOption, hp] using h
      simp only [hp, hsteps]
    | _ => simp [Except.toOption, hp] at h

/-- A database is opened in the file that is found, or in an empty one put where there is none. -/
theorem connectFile_ok {n : DatabaseName} {c : Connection}
    (h : (t.connectFile path n steps).1 = .ok c) :
    t.node? steps ≠ some .folder ∧
      (t.connectFile path n steps).2.here = t.here ∧
      ∃ content : FileContent, connectContent n steps content = .ok c ∧
        content.medium.rows? = Node.rows? (t.node? steps) := by
  unfold connectFile at h ⊢
  split at h
  · cases h
  rename_i hpermissions
  rw [if_neg hpermissions]
  cases hnode : t.node? steps with
  | none =>
    rw [hnode] at h
    refine ⟨(fun hfolder => by cases hfolder), ?_⟩
    -- nothing is found, so there is a connection only if an empty file was made
    by_cases hmade : n.access = .create ∧ t.node? steps.dropLast = some .folder
    · simp only [if_pos hmade] at h ⊢
      exact ⟨rfl, .octets [], h, rfl⟩
    · simp only [if_neg hmade] at h
      cases h
  | some node =>
    cases node with
    | folder =>
      rw [hnode] at h
      cases h
    | file content =>
      rw [hnode] at h
      exact ⟨(fun hfolder => by cases hfolder), rfl, content, h, rfl⟩

/-- Writing a database back puts it into its file, and what is found elsewhere has no part in it. -/
theorem node?_keepIn {c : Connection} (hfault : c.fault = none)
    (hhere : t.here.take steps.length ≠ steps) :
    (t.keepIn (some steps) c).node? steps = some (.file (.database c.content c.journal)) ∧
      (t.keepIn (some steps) c).here = t.here := by
  have hkept : t.keepIn (some steps) c = t.put steps (.database c.content c.journal) := by
    unfold keepIn
    rw [hfault]
  rw [hkept]
  exact ⟨node?_put_self hhere _, rfl⟩

variable {c : Connection} {rows : List Row} {last : Option Saved}

/-- A database that can be opened and written gives the rows that are found, and they are in its
file from then on. -/
theorem openStore_holds (hfile : t.databaseFile? path = some steps)
    (hopen : (t.connect path).1 = .ok c) (hfault : c.fault = none)
    (hrows : Node.rows? (t.node? steps) = some rows)
    (hsaved : Database.find? Saved.key rows = last.map Saved.document) :
    let o := t.openStore path
    o.store = some c ∧ o.file = some steps ∧ c.Holds rows last ∧
      o.after.here.take steps.length ≠ steps ∧ Node.rows? (o.after.node? steps) = some rows := by
  obtain ⟨n, -, hconnect⟩ := connect_of_databaseFile? hfile
  have hopened := hopen
  rw [hconnect] at hopened
  obtain ⟨hfolder, hhere, content, hcontent, hsame⟩ := connectFile_ok hopened
  -- a connection only exists on a medium that could be opened, and that keeps its rows
  have hholds : c.Holds rows last := by
    unfold connectContent at hcontent
    split at hcontent
    · cases hcontent
    · exact Medium.holds_of_connect hcontent hfault (hsame.trans hrows) hsaved
  have hstore : t.openStore path = ⟨some c, some steps, (t.connect path).2.whileOpen (some steps) c,
      (t.connect path).2.keepIn (some steps) c⟩ := by
    unfold openStore
    rw [hfile]
    cases hc : t.connect path with
    | mk opened tree =>
      rw [hc] at hopen
      have : opened = .ok c := hopen
      rw [this]
  have hout : (t.connect path).2.here.take steps.length ≠ steps := by
    rw [hconnect, hhere]
    exact here_ne_of_node? hfolder
  obtain ⟨hnode, hkept⟩ := node?_keepIn hfault hout
  rw [hstore]
  refine ⟨rfl, rfl, hholds, ?_, ?_⟩
  · rw [hkept]
    exact hout
  · rw [hnode]
    exact hholds.rows?

/-- Writing a store back puts the rows of its connection into the file. -/
theorem rows?_keepStore (h : c.Holds rows last) (hhere : t.here.take steps.length ≠ steps) :
    Node.rows? ((t.keepStore (some steps) (some c)).node? steps) = some rows := by
  have hkept : t.keepStore (some steps) (some c) = t.keepIn (some steps) c := rfl
  rw [hkept, (node?_keepIn h.fault hhere).1]
  exact h.rows?

/-! ## Opening again -/

/-- A path without options to a file in a folder leads to a database that can be opened and written,
as long as its name leaves room for a journal and what is found there has rows. -/
theorem connect_of_plain {file : String}
    (hname : DatabaseName.ofPath path = .ok (.plain (.file file)))
    (hsteps : t.databaseSteps? file = some steps)
    (hroom : lastLength steps + journalRoom ≤ nameLimit)
    (hfolder : t.node? steps.dropLast = some .folder)
    (hrows : Node.rows? (t.node? steps) = some rows)
    (hkept : t.node? steps ≠ some (.file .nothing)) :
    t.databaseFile? path = some steps ∧ ∃ c, (t.connect path).1 = .ok c ∧ c.fault = none := by
  have hfile : t.databaseFile? path = some steps := by
    unfold databaseFile?
    rw [hname]
    exact hsteps
  refine ⟨hfile, ?_⟩
  obtain ⟨n, hn, hconnect⟩ := connect_of_databaseFile? hfile
  rw [hname] at hn
  cases hn
  rw [hconnect]
  have hcontent (content : FileContent) (hrows : content.medium.rows? = some rows)
      (hlost : content ≠ .nothing) :
      ∃ c, connectContent (.plain (.file file)) steps content = .ok c ∧ c.fault = none := by
    have hfault : (terms (.plain (.file file)) steps content).fault = none := by
      have hfits : ¬ nameLimit < lastLength steps + journalRoom := Nat.not_lt.2 hroom
      unfold terms
      simp only
      rw [if_neg (by rintro (h | h) <;> cases h), if_neg hlost, if_neg hfits]
    obtain ⟨c, hc, hwritten⟩ := Medium.connect_of_rows? hrows hfault rfl
    refine ⟨c, ?_, hwritten⟩
    unfold connectContent
    rw [if_neg (by rintro ⟨h, -⟩; cases h)]
    exact hc
  unfold connectFile
  cases hnode : t.node? steps with
  | none =>
    rw [hnode] at hrows
    obtain ⟨c, hc, hwritten⟩ := hcontent (.octets []) hrows (fun h => by cases h)
    refine ⟨c, ?_, hwritten⟩
    rw [if_neg (by rintro h; cases h)]
    exact (congrArg Prod.fst (if_pos ⟨rfl, hfolder⟩)).trans hc
  | some node =>
    rw [hnode] at hrows hkept
    cases node with
    | folder => cases hrows
    | file content =>
      obtain ⟨c, hc, hwritten⟩ := hcontent content hrows (fun h => hkept (h ▸ rfl))
      refine ⟨c, ?_, hwritten⟩
      rw [if_neg (by rintro h; cases h)]
      exact hc

end FileTree

end CompileSession
