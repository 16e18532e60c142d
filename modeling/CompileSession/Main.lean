import CompileSession.Command.Invocation
import CompileSession.Store.Document

/-!
# The program

Reads the arguments, the environment and the files, hands them to the library, and writes what it
says. The database is a document in a file of its own. No service is reached from here and no
program started: either is told as a network or a system would tell it.
-/

namespace CompileSession.Program

/-- The fault that an error of the system stands for. -/
def faultOf : IO.Error → FileFault
  | .noFileOrDirectory .. => .missing
  | .inappropriateType .. => .isFolder
  | _ => .missing

/-- The text of the file at a path. -/
def readSource (path : String) : IO (Except FileFault String) := do
  try
    let octets ← IO.FS.readBinFile path
    return FileContent.text? (.octets octets.toList)
  catch e => return .error (faultOf e)

/-- What octets in a file are, which may be the document of a database. -/
def contentOf (octets : List UInt8) : FileContent :=
  match (Text.decode? octets).bind Database.ofDocument? with
  | some d => .database d .ahead
  | none => .octets octets

/-- What the file at a path holds, if it is there. -/
def readContent (path : String) : IO (Option FileContent) := do
  try
    let octets ← IO.FS.readBinFile path
    return some (contentOf octets.toList)
  catch _ => return none

/-- Opens the store of a session at a path. -/
def openStore (path : String) : IO (SessionStore Connection) := do
  match DatabaseName.ofPath path with
  | .error _ => return none
  | .ok n =>
    match n.place with
    | .file file =>
      match ← readContent file with
      | some content => return (FileTree.connectContent n [] content).toOption
      | none =>
        if n.access = .create then return (FileTree.connectContent n [] (.octets [])).toOption
        else return none
    | _ => return (Connection.unkept .memory none).toOption

/-- Writes the store of a session back to its path. -/
def keepStore (path : String) (store : SessionStore Connection) : IO Unit := do
  match (DatabaseName.ofPath path).toOption.map DatabaseName.place, store with
  | some (.file file), some ⟨content, _, none⟩ =>
    try IO.FS.writeFile file content.document
    catch _ => return
  | _, _ => return

/-- The variables that settings may come from. -/
def settingNames : List String :=
  ["WYLAB_SERVER_URL", "WYLAB_DB_PATH", "WYLAB_REQUEST_ENCODING", "WYLAB_TIMEOUT_SECS",
   "WYLAB_NODE"]

/-- The environment, as far as settings may come from it. -/
def readEnvironment : IO (String → Option String) := do
  let pairs ← settingNames.mapM fun name => do return (name, ← IO.getEnv name)
  return fun name => (pairs.lookup name).join

/-- A system that starts no program. -/
def noSystem : Launcher := fun _ _ => .refused "Operation not permitted (os error 1)"

/-- Carries out a command line. -/
def carryOut (c : CommandLine) : IO Ran := do
  let config := c.config (← readEnvironment)
  let store ← openStore config.dbPath
  keepStore config.dbPath store
  match c.order with
  | .session => return showSaved store
  | .compile order =>
    let source ← order.file.mapM readSource
    let (ran, store) := order.carryOut config ⟨.unreachable, noSystem⟩ source store
    keepStore config.dbPath store
    return ran

/-- One run of the program. -/
def run (arguments : List String) : IO Ran := do
  match CommandLine.read arguments with
  | .error stop => return .stopped stop
  | .ok c => carryOut c

end CompileSession.Program

def main (arguments : List String) : IO UInt32 := do
  let ran ← CompileSession.Program.run arguments
  (← IO.getStdout).putStr ran.stdout
  (← IO.getStderr).putStr ran.stderr
  return UInt32.ofNat ran.code
