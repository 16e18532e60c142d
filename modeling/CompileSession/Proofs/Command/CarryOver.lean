import CompileSession.Proofs.Command.Shared
import CompileSession.Proofs.Command.Submission
import CompileSession.Proofs.Command.Words
import CompileSession.Proofs.FileTree.Written

/-!
# What one run of the program leaves to the next

A visit is one run of the program with a command line that spells an order. Visits that share the
file of a database follow one another; in between, the owner of the machine may change every other
file, the environment, and the folder in which the program runs. What one visit submits is what the
next one starts with, whatever came of the submission.

Results:
1. `Visit.outcome_session` and `Visit.outcome_compile`: what a visit does over an open store.
2. `Visit.left_written` and `Visit.source_of_file`: a visit writes no other file, and reads the text
   of its source as it found it.
3. `Visited.rows`: after every sequence of visits the database holds what was submitted last.
4. `Visited.carries_over`: what a visit submits or shows, and what it leaves in the database.
-/

namespace CompileSession

/-! ## Visits -/

/-- One run of the program: where and with what it runs, and the order that its command line
spells. -/
structure Visit where
  found : FileTree
  environment : String → Option String
  network : Network
  programs : Programs
  order : Order
  words : List String
  spelled : order.Spelled words

namespace Visit

/-- What a visit does, and the tree of files after it. -/
def outcome (v : Visit) : Ran × FileTree :=
  v.found.invoke v.environment v.network v.programs v.words

def ran (v : Visit) : Ran := v.outcome.1

def left (v : Visit) : FileTree := v.outcome.2

/-- The settings of a visit, which come from its environment. -/
def settings (v : Visit) : Config := (Config.ofEnvironment v.environment).1

/-- The store that a visit opens. -/
def opened (v : Visit) : OpenStore := v.found.openStore v.settings.dbPath

/-- The source of an order, as it is read while the store is open. -/
def source (v : Visit) (o : CompileOrder) : CompileOrder.Source := o.file.map v.opened.during.read

/-- The database of a visit is in the file at the end of some steps, and can be opened and
written. -/
structure Uses (v : Visit) (steps : List String) : Prop where
  leads : v.found.databaseFile? v.settings.dbPath = some steps
  opens : ∃ c, (v.found.connect v.settings.dbPath).1 = .ok c ∧ c.fault = none

end Visit

/-- Some visits made one after the other over the database at the end of some steps, where nothing
or a database without rows was found at first; `node` is found there after them. -/
inductive Visited (steps : List String) : List Visit → (node : Option Node) → Prop
  | start {node : Option Node} : Node.rows? node = some [] → Visited steps [] node
  | visit {past : List Visit} {v : Visit} :
      Visited steps past (v.found.node? steps) → v.Uses steps →
      Visited steps (past ++ [v]) (v.left.node? steps)

/-- The request submitted last in some visits. -/
def lastSubmitted (visits : List Visit) : Option Request :=
  (visits.flatMap fun v => v.ran.sent.map Prod.snd).getLast?

/-- What a request carries over. -/
def Request.saved (r : Request) : Saved := ⟨r.code, r.verify⟩

/-- What a run shows of the session saved last. -/
def shown : Option Saved → Ran
  | none => .quiet 0 "" "No saved session.\n"
  | some s => .quiet 0 (s.toJson.renderIndented ++ "\n") ""

/-! ## One visit -/

namespace Visit

variable {v : Visit} {o : CompileOrder}

theorem outcome_session (h : v.order = .session) :
    v.outcome = (showSaved v.opened.store, v.opened.after) := by
  unfold outcome FileTree.invoke
  rw [CommandLine.read_spelled v.spelled]
  unfold FileTree.carryOut
  rw [h]
  rfl

theorem outcome_compile (h : v.order = .compile o) :
    ∃ around, let r := o.carryOut v.settings around (v.source o) v.opened.store
      v.outcome = (r.1, v.opened.after.keepStore v.opened.file r.2) := by
  unfold outcome FileTree.invoke
  rw [CommandLine.read_spelled v.spelled]
  unfold FileTree.carryOut
  rw [h]
  exact ⟨_, rfl⟩

section
variable {steps : List String} {rows : List Row} {last : Option Saved}
variable (huses : v.Uses steps) (hrows : Node.rows? (v.found.node? steps) = some rows)
variable (hsaved : Database.find? Saved.key rows = last.map Saved.document)

include huses hrows hsaved

/-- A visit opens a connection to the rows that it found, and they are in the file from then on. -/
theorem opened_holds :
    ∃ c, v.opened.store = some c ∧ v.opened.file = some steps ∧ c.Holds rows last ∧
      v.opened.after.here.take steps.length ≠ steps ∧
      Node.rows? (v.opened.after.node? steps) = some rows := by
  obtain ⟨c, hopen, hfault⟩ := huses.opens
  exact ⟨c, FileTree.openStore_holds huses.leads hopen hfault hrows hsaved⟩

theorem session_shows (h : v.order = .session) :
    v.ran = shown last ∧ Node.rows? (v.left.node? steps) = some rows := by
  obtain ⟨c, hstore, -, hholds, -, hleft⟩ := opened_holds huses hrows hsaved
  have hran : v.ran = showSaved v.opened.store := congrArg Prod.fst (outcome_session h)
  have hafter : v.left = v.opened.after := congrArg Prod.snd (outcome_session h)
  rw [hran, hafter, hstore]
  refine ⟨?_, hleft⟩
  unfold showSaved
  rw [hholds.load]
  cases last <;> rfl

theorem compile_unreadable (h : v.order = .compile o) {fault : FileFault}
    (hsource : v.source o = some (.error fault)) :
    v.ran.sent = [] ∧ Node.rows? (v.left.node? steps) = some rows := by
  obtain ⟨c, hstore, hfile, hholds, hhere, -⟩ := opened_holds huses hrows hsaved
  obtain ⟨around, houtcome⟩ := outcome_compile h
  rw [hsource, hstore, hfile] at houtcome
  have hran : v.ran.sent = [] := congrArg (·.1.sent) houtcome
  have hleft : v.left = v.opened.after.keepStore (some steps) (some c) :=
    congrArg Prod.snd houtcome
  rw [hleft]
  exact ⟨hran, FileTree.rows?_keepStore hholds hhere⟩

theorem compile_submits (h : v.order = .compile o) {text : Option String}
    (hsource : v.source o = text.map .ok) :
    v.ran.sent = [(firstRequest, o.requestOf (o.submission text last))] ∧
      Node.rows? (v.left.node? steps) =
        some (Database.upsert Saved.key (o.submission text last).document rows) := by
  obtain ⟨c, hstore, hfile, hholds, hhere, -⟩ := opened_holds huses hrows hsaved
  obtain ⟨around, houtcome⟩ := outcome_compile h
  rw [hsource, hstore, hfile] at houtcome
  obtain ⟨hsent, c', hsaved', hholds'⟩ :=
    CompileOrder.carryOut_of_text hholds o v.settings around text
  have hran : v.ran.sent = _ := congrArg (·.1.sent) houtcome
  have hleft : v.left = _ := congrArg Prod.snd houtcome
  rw [hran, hleft]
  refine ⟨hsent, ?_⟩
  rw [hsaved']
  exact FileTree.rows?_keepStore hholds' hhere

end

/-- A visit writes the file of its database, if it is in one, and no other file. -/
theorem left_written :
    FileTree.Written (v.found.databaseFile? v.settings.dbPath).toList v.found v.left := by
  have hfile : ∀ steps ∈ v.found.databaseFile? v.settings.dbPath,
      steps ∈ (v.found.databaseFile? v.settings.dbPath).toList :=
    fun steps hsteps => Option.mem_toList.2 hsteps
  have hafter : FileTree.Written _ v.found v.opened.after := .openStore_after hfile
  cases horder : v.order with
  | session =>
    have hleft : v.left = v.opened.after := congrArg Prod.snd (outcome_session horder)
    rw [hleft]
    exact hafter
  | compile o =>
    obtain ⟨around, houtcome⟩ := outcome_compile horder
    have hleft : v.left = v.opened.after.keepStore v.opened.file _ := congrArg Prod.snd houtcome
    have hopened : v.opened.file = v.found.databaseFile? v.settings.dbPath :=
      FileTree.openStore_file
    rw [hleft, hopened]
    exact hafter.keepStore hfile _

/-- The source of an order is the text of its file as the visit found it, if that is not one of the
files that the database is in. -/
theorem source_of_file (h : v.found.databaseFile? v.settings.dbPath = some steps)
    {name : String} {others : List String} {content : FileContent} (hfile : o.file = some name)
    (hwalk : v.found.walk name = .ok (.file others content))
    (hothers : ∀ f ∈ FileTree.databaseFiles steps,
      v.found.node? f ≠ some .folder ∧ FileTree.fullPath others ≠ FileTree.fullPath f) :
    v.source o = some content.text? := by
  have hwritten : FileTree.Written (FileTree.databaseFiles steps) v.found v.opened.during := by
    refine .openStore_during fun found hfound => ?_
    cases h.symm.trans hfound
    exact List.Subset.refl _
  unfold source
  rw [hfile]
  exact congrArg some
    (hwritten.read (fun f hf => (hothers f hf).1) hwalk fun f hf => (hothers f hf).2)

end Visit

/-! ## One visit after the other -/

theorem lastSubmitted_snoc (past : List Visit) (v : Visit) :
    lastSubmitted (past ++ [v]) =
      ((v.ran.sent.getLast?).map Prod.snd).or (lastSubmitted past) := by
  unfold lastSubmitted
  rw [List.flatMap_append, List.getLast?_append, List.flatMap_singleton, List.getLast?_map]

/-- A source is one that cannot be read, or there is a text unless the order names no file. -/
theorem CompileOrder.source_cases (source : CompileOrder.Source) :
    (∃ fault, source = some (.error fault)) ∨ ∃ text : Option String, source = text.map .ok := by
  obtain _ | (fault | text) := source
  · exact .inr ⟨none, rfl⟩
  · exact .inl ⟨fault, rfl⟩
  · exact .inr ⟨some text, rfl⟩

/-- After every sequence of visits the database holds the request submitted last. -/
theorem Visited.rows {steps : List String} {past : List Visit} {node : Option Node}
    (h : Visited steps past node) :
    ∃ rows, Node.rows? node = some rows ∧ Database.find? Saved.key rows =
      ((lastSubmitted past).map Request.saved).map Saved.document := by
  induction h with
  | start hrows => exact ⟨[], hrows, rfl⟩
  | @visit past v _ huses ih =>
    obtain ⟨rows, hrows, hsaved⟩ := ih
    -- a visit that submits nothing leaves the rows, and one that submits puts its own
    rw [lastSubmitted_snoc]
    cases horder : v.order with
    | session =>
      obtain ⟨hran, hleft⟩ := Visit.session_shows huses hrows hsaved horder
      have hsent : v.ran.sent = [] := by
        rw [hran]
        cases (lastSubmitted past).map Request.saved <;> rfl
      rw [hsent]
      exact ⟨rows, hleft, hsaved⟩
    | compile o =>
      rcases CompileOrder.source_cases (v.source o) with ⟨fault, hsource⟩ | ⟨text, hsource⟩
      · obtain ⟨hsent, hleft⟩ := Visit.compile_unreadable huses hrows hsaved horder hsource
        rw [hsent]
        exact ⟨rows, hleft, hsaved⟩
      · obtain ⟨hsent, hleft⟩ := Visit.compile_submits huses hrows hsaved horder hsource
        rw [hsent]
        refine ⟨_, hleft, ?_⟩
        rw [Database.find?_upsert, if_pos rfl]
        rfl

/-- What a visit does after others over one database that had no rows at first. An order to compile
submits one request, unless its file cannot be read; then nothing is submitted and no row of the
database changes. The code is that of the file, the flag the one that was given, and what was not
given is that of the request submitted last, whatever came of it; whether counterexamples are
searched for is not carried over. The other order shows the code and the flag of the request
submitted last, in a form that is read back as them, and changes no row either. -/
theorem Visited.carries_over {steps : List String} {past : List Visit} {v : Visit}
    (h : Visited steps past (v.found.node? steps)) (huses : v.Uses steps) :
    let last := lastSubmitted past
    (∀ o, v.order = .compile o →
      (∀ fault, v.source o = some (.error fault) →
        v.ran.sent = [] ∧
        Node.rows? (v.left.node? steps) = Node.rows? (v.found.node? steps)) ∧
      ∀ text : Option String, v.source o = text.map .ok →
        v.ran.sent = [(firstRequest,
          { code := (text <|> last.map Request.code).getD defaultDocument
            verify := (o.verify <|> last.map Request.verify).getD false
            counterexamples := o.counterexamples })]) ∧
    (v.order = .session →
      v.ran = shown (last.map Request.saved) ∧
      (∀ r, last = some r → Saved.ofText v.ran.stdout = .ok r.saved) ∧
      Node.rows? (v.left.node? steps) = Node.rows? (v.found.node? steps)) := by
  intro last
  obtain ⟨rows, hrows, hsaved⟩ := h.rows
  refine ⟨fun o horder => ⟨fun fault hsource => ?_, fun text hsource => ?_⟩, fun horder => ?_⟩
  · obtain ⟨hsent, hleft⟩ := Visit.compile_unreadable huses hrows hsaved horder hsource
    exact ⟨hsent, hleft.trans hrows.symm⟩
  · obtain ⟨hsent, -⟩ := Visit.compile_submits huses hrows hsaved horder hsource
    rw [hsent]
    show [(firstRequest, o.requestOf (o.submission text (last.map Request.saved)))] = _
    unfold CompileOrder.requestOf CompileOrder.submission
    rw [Option.map_map, Option.map_map]
    rfl
  · obtain ⟨hran, hleft⟩ := Visit.session_shows huses hrows hsaved horder
    refine ⟨hran, fun r hr => ?_, hleft.trans hrows.symm⟩
    have hlast : lastSubmitted past = some r := hr
    rw [hran, hlast]
    exact Saved.ofText_renderIndented r.saved (by decide)

/-- A folder with one source in it. -/
def oneSource : FileTree :=
  ⟨["home"], [("/home/main.whiley", .file (.octets (Text.encode "skip".toList)))]⟩

theorem spells_verified :
    CompileOrder.Spells ⟨some "main.whiley", some true, true, false⟩ false
      ["main.whiley", "--verify", "--counterexamples"] := by
  have hfile : CompileOrder.Spells ⟨some "main.whiley", none, false, false⟩ false
      ([] ++ ["main.whiley"]) := .file .plain rfl ⟨by decide, .inr (by decide)⟩
  have hverify := hfile.flag (f := .verify) rfl
  exact hverify.flag (f := .counterexamples) rfl

/-- The source is verified, on a network that reaches no service. -/
def verifiedVisit : Visit where
  found := oneSource
  environment := fun _ => none
  network := .unreachable
  programs := ⟨[], ""⟩
  order := .compile ⟨some "main.whiley", some true, true, false⟩
  words := ["compile", "main.whiley", "--verify", "--counterexamples"]
  spelled := .compile spells_verified

/-- Afterwards the program is run again without naming anything. -/
def plainVisit : Visit where
  found := verifiedVisit.left
  environment := fun _ => none
  network := .unreachable
  programs := ⟨[], ""⟩
  order := .compile .plain
  words := ["compile"]
  spelled := .compile .plain

theorem plainVisit_carries_over :
    Visited ["home", "wylab.db"] [verifiedVisit] (plainVisit.found.node? ["home", "wylab.db"]) ∧
    plainVisit.Uses ["home", "wylab.db"] ∧
    plainVisit.ran.sent = [(1, ⟨"skip", true, false⟩)] := by
  have hname : DatabaseName.ofPath "wylab.db" = .ok (.plain (.file "wylab.db")) := by rfl
  have hroom : FileTree.lastLength ["home", "wylab.db"] + FileTree.journalRoom ≤
      FileTree.nameLimit := by decide
  have hstart : Visited ["home", "wylab.db"] [] (verifiedVisit.found.node? ["home", "wylab.db"]) :=
    .start rfl
  have huses : verifiedVisit.Uses ["home", "wylab.db"] := by
    obtain ⟨hleads, hopens⟩ := FileTree.connect_of_plain (t := oneSource) hname rfl hroom rfl rfl
      (fun h => by cases h)
    exact ⟨hleads, hopens⟩
  have hvisited : Visited ["home", "wylab.db"] [verifiedVisit]
      (plainVisit.found.node? ["home", "wylab.db"]) := .visit hstart huses
  -- the database that the first visit left can be opened again, since it has rows
  have hagain : plainVisit.Uses ["home", "wylab.db"] := by
    obtain ⟨rows, hrows, -⟩ := hvisited.rows
    obtain ⟨hleads, hopens⟩ := FileTree.connect_of_plain (t := plainVisit.found) hname rfl hroom rfl
      hrows (fun h => by cases h)
    exact ⟨hleads, hopens⟩
  have hsent := ((hstart.carries_over huses).1 _ rfl).2 (some "skip") rfl
  have hlast : lastSubmitted [verifiedVisit] = some ⟨"skip", true, true⟩ := by
    show lastSubmitted ([] ++ [verifiedVisit]) = _
    rw [lastSubmitted_snoc, hsent]
    rfl
  refine ⟨hvisited, hagain, ?_⟩
  have hplain := ((hvisited.carries_over hagain).1 .plain rfl).2 none rfl
  rw [hlast] at hplain
  exact hplain

end CompileSession
