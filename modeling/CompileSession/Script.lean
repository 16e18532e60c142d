import CompileSession.Session.Delivery

/-!
# Running an artifact

An artifact is a program for a JavaScript runtime. The script handed to the runtime defines the
one function that artifacts expect of their host, then the artifact, then calls its entry point.
-/

namespace CompileSession

/-- The function that artifacts expect of their host. -/
def consolePrelude : String :=
  "function println_n6string(str) \x7b console.log(String(str)); \x7d"

/-- The script that runs an artifact. -/
def script (artifact entry : String) : String :=
  consolePrelude ++ "\n" ++ artifact ++ "\n" ++ entry ++ "();\n"

/-- What became of a program that was to be started: it ended with a code, or it could not be
started for a reason that the system names. -/
inductive Launch where
  | ended (code : Nat) (output : String)
  | refused (reason : String)
deriving DecidableEq, Repr

/-- What a launch of `program` means for the run. -/
def Launch.outcome (program : String) : Launch → Except ExecutionError Unit
  | .ended 0 _ => .ok ()
  | .ended code _ => .error (.failed ("exit status: " ++ toString code))
  | .refused reason => .error (.spawn program reason)

/-- What a launch writes to the terminal. -/
def Launch.output : Launch → String
  | .ended _ output => output
  | .refused _ => ""

/-- A system that starts programs: what becomes of a program that is given a script. -/
abbrev Launcher := String → String → Launch

/-- A runtime as the sink of a session: it runs the script of an artifact. -/
def Launcher.sink (system : Launcher) (program artifact entry : String) :
    Except ExecutionError Unit :=
  (system program (script artifact entry)).outcome program

end CompileSession
