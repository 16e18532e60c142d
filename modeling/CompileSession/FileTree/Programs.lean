import CompileSession.FileTree.Basic
import CompileSession.Script

/-!
# Programs in files

A program is started by its name. A name with a slash in it is the path of a file; any other is
looked for in the search folders, in their order, and the first file there that can be started is.
If there is none, a folder or a file that cannot be started counts over a file that is not there.

Of the files of a tree, those with a behaviour can be started.
-/

namespace CompileSession

/-- What a program does with what it is given: its exit code, and what it writes. -/
abbrev Behaviour := String → Nat × String

/-- Why a program was not started. -/
inductive LaunchFault where
  | unfound (fault : FileFault)
  | denied
  | nulInName
deriving DecidableEq, Repr

/-- The text of a launch fault. -/
def LaunchFault.message : LaunchFault → String
  | .unfound fault => fault.message
  | .denied => "Permission denied (os error 13)"
  | .nulInName => "nul byte found in provided data"

/-- The programs of a machine. -/
structure Programs where
  /-- what they do, by the full paths of their files -/
  behaviours : List (String × Behaviour)
  /-- the search folders, with colons between them -/
  searchPath : String

/-- The programs with the search folders that an environment names, if it names any. -/
def Programs.within (p : Programs) (environment : String → Option String) : Programs :=
  { p with searchPath := (environment "PATH").getD p.searchPath }

namespace FileTree

/-- The program in the file at a path. -/
def programAt (t : FileTree) (p : Programs) (path : String) : Except LaunchFault Behaviour :=
  match t.walk path with
  | .error fault => .error (.unfound fault)
  | .ok (.folder _) => .error .denied
  | .ok (.file steps _) =>
    match p.behaviours.lookup (fullPath steps) with
    | some behaviour => .ok behaviour
    | none => .error .denied

/-- The path of a name in a search folder; without a name, that is the folder in which the program
works. -/
def inFolder (folder name : String) : String :=
  if folder.isEmpty then name else folder ++ "/" ++ name

/-- Looks for a program of a name in folders, after those before them gave `fault`. -/
def search (t : FileTree) (p : Programs) (name : String) (fault : LaunchFault) :
    List String → Except LaunchFault Behaviour
  | [] => .error fault
  | folder :: rest =>
    match t.programAt p (inFolder folder name) with
    | .ok behaviour => .ok behaviour
    | .error (.unfound .nameTooLong) => .error (.unfound .nameTooLong)
    | .error next => t.search p name (if fault = .denied then .denied else next) rest

/-- The program that a name stands for. -/
def programOf (t : FileTree) (p : Programs) (name : String) : Except LaunchFault Behaviour :=
  let cs := name.toList
  if cs.contains '\x00' then .error .nulInName
  else if cs.isEmpty then .error (.unfound .missing)
  else if cs.contains '/' then t.programAt p name
  else if nameLimit < Text.octetCount cs then .error (.unfound .nameTooLong)
  else
    t.search p name (.unfound .missing)
      ((Text.pieces ':' p.searchPath.toList).map String.ofList)

/-- Starts programs among the files of a tree. -/
def launcher (t : FileTree) (p : Programs) : Launcher := fun name input =>
  match t.programOf p name with
  | .ok behaviour => .ended (behaviour input).1 (behaviour input).2
  | .error fault => .refused fault.message

end FileTree

end CompileSession
