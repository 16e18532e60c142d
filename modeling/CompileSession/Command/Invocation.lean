import CompileSession.Client
import CompileSession.Command.Help
import CompileSession.FileTree.Databases
import CompileSession.FileTree.Programs
import CompileSession.Report
import CompileSession.Script
import CompileSession.Service.Exchange

/-!
# Invocations

One run of the program from its command line to its exit code. The code classifies what came of a
compilation: 0 for a program, 1 for errors in the source, 2 for an exception or an answer of no use,
and 3 if the source was not read, no whole answer came or the program was not run to a good end. A
fault in the command line has the code 2 as well, but nothing is opened or sent then.

A store that cannot be opened is no fault: the session is then neither restored nor saved.
-/

namespace CompileSession

/-- What a run of the program leaves: its exit code, what it wrote, the requests it sent and the
programs it ran. -/
structure Ran where
  code : Nat
  stdout : String
  stderr : String
  sent : List (RequestId × Request)
  programs : List (String × String)
deriving DecidableEq, Repr

namespace Ran

/-- A run that wrote something and did nothing else. -/
def quiet (code : Nat) (stdout stderr : String) : Ran := ⟨code, stdout, stderr, [], []⟩

/-- A run that ends with an error. -/
def failed (message : String) : Ran := quiet 3 "" ("Error: " ++ message ++ "\n")

/-- A run that ends at its command line. -/
def stopped : Stop → Ran
  | .help => quiet 0 helpText ""
  | .fault error => quiet 2 "" (error.message ++ "\n")

end Ran

/-- What a command works with outside of itself: the network, and the system that starts
programs. -/
structure Surroundings where
  network : Network
  system : Launcher

/-- The settings of an environment, as far as the command line does not override them. -/
def CommandLine.config (c : CommandLine) (environment : String → Option String) : Config :=
  let config := (Config.ofEnvironment environment).1
  { config with
    serverUrl := c.server.getD config.serverUrl
    dbPath := c.db.getD config.dbPath }

namespace CompileOrder

/-- The flags to compile with, given those of the session. -/
def flags (o : CompileOrder) (restored : Flags) : Flags :=
  ⟨o.verify.getD restored.verify, o.counterexamples⟩

/-- The exit code of a compilation that came to an end. -/
def exitCode : Status → Nat
  | .succeeded => 0
  | .failed .compileErrors => 1
  | .failed .serverException => 2
  | .failed .protocol => 2
  | .idle => 3
  | .pending _ => 3

/-- Runs the program of a session, after `report` was written. -/
def runProgram {σ : Type} [KeyValue σ] (config : Config) (system : Launcher) (report : String)
    (d : Desk σ) : Ran :=
  match d.session.runnable with
  | none => .quiet 3 report "Error: nothing to run\n"
  | some artifact =>
    let output := report ++ (system config.node (script artifact entryPoint)).output
    let run := d.run (system.sink config.node)
    let ran : Ran :=
      match run.2 with
      | .ok _ => .quiet 0 output ""
      | .error e => .quiet 3 output ("Error: " ++ e.message ++ "\n")
    { ran with programs := run.1.runs }

/-- The source of an order: none if it names no file, else its text or why it cannot be read. -/
abbrev Source := Option (Except FileFault String)

/-- The session of an order before it is submitted. -/
def opened {σ : Type} [KeyValue σ] (store : SessionStore σ) (text : Option String) : Client σ :=
  let client := Client.start (.ofText "") store
  match text with
  | none => client
  | some text => client.atDesk (Desk.within (Session.edit text))

/-- Submits the text of a session and settles the request with the network. -/
def submit {σ : Type} [KeyValue σ] (o : CompileOrder) (config : Config) (network : Network)
    (client : Client σ) : Client σ × Client.Settled :=
  let flags := o.flags client.desk.session.flags
  let session := client.desk.session
  let delivery := (config.dispatch network (.of session.pane.text flags)).1
  client.compile flags [(session.nextRequest, delivery)]

/-- Carries out an order over a store: what the run leaves, and the store after it. -/
def carryOut {σ : Type} [KeyValue σ] (o : CompileOrder) (config : Config) (around : Surroundings)
    (source : Source) (store : SessionStore σ) : Ran × SessionStore σ :=
  match source with
  | some (.error fault) =>
    (.failed ("failed to read '" ++ o.file.getD "" ++ "': " ++ fault.message), store)
  | some (.ok text) => finish (o.submit config around.network (opened store (some text)))
  | none => finish (o.submit config around.network (opened store none))
where
  /-- Reports on a settled request, and runs its program if that is ordered. -/
  finish (settled : Client σ × Client.Settled) : Ran × SessionStore σ :=
    let d := settled.1.desk
    let ran : Ran :=
      match settled.2 with
      | .error e => .failed (Client.failureMessage e)
      | .ok status =>
        let report := Report.render d.session.pane d.session.log
        if o.run ∧ status = .succeeded then runProgram config around.system report d
        else .quiet (exitCode status) report ""
    ({ ran with sent := d.sent }, d.store)

end CompileOrder

/-- Shows the session saved in a store. -/
def showSaved {σ : Type} [KeyValue σ] (store : SessionStore σ) : Ran :=
  match store.load.1 with
  | some saved => .quiet 0 (saved.toJson.renderIndented ++ "\n") ""
  | none => .quiet 0 "" "No saved session.\n"

/-- A store of a session, and the trees of files with it. -/
structure OpenStore where
  store : SessionStore Connection
  /-- the steps to the file that it is in, if it is in one -/
  file : Option (List String)
  /-- the tree while the store is open -/
  during : FileTree
  /-- the tree once it is closed -/
  after : FileTree

namespace FileTree

/-- The store of a session at a path, if it can be opened. -/
def openStore (t : FileTree) (path : String) : OpenStore :=
  let file := t.databaseFile? path
  match t.connect path with
  | (.ok c, t) => ⟨some c, file, t.whileOpen file c, t.keepIn file c⟩
  | (.error _, t) => ⟨none, file, t, t⟩

/-- Writes a store back to its file. -/
def keepStore (t : FileTree) (file : Option (List String)) : SessionStore Connection → FileTree
  | some c => t.keepIn file c
  | none => t

/-- Carries out a command line in a tree of files, with the programs in it. -/
def carryOut (t : FileTree) (environment : String → Option String) (network : Network)
    (programs : Programs) (c : CommandLine) : Ran × FileTree :=
  let config := c.config environment
  let o := t.openStore config.dbPath
  match c.order with
  | .session => (showSaved o.store, o.after)
  | .compile order =>
    let around : Surroundings := ⟨network, o.during.launcher (programs.within environment)⟩
    let source := order.file.map o.during.read
    let (ran, store) := order.carryOut config around source o.store
    (ran, o.after.keepStore o.file store)

/-- One run of the program in a tree of files: what it leaves, and the tree after it. -/
def invoke (t : FileTree) (environment : String → Option String) (network : Network)
    (programs : Programs) (arguments : List String) : Ran × FileTree :=
  match CommandLine.read arguments with
  | .error stop => (.stopped stop, t)
  | .ok c => t.carryOut environment network programs c

end FileTree

end CompileSession
