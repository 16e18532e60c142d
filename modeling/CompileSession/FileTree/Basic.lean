import CompileSession.Store.Connection
import CompileSession.Store.Entries
import CompileSession.Text.Octets
import CompileSession.Text.Pieces

/-!
# Trees of files

The files among which a program runs: folders and files under the steps that lead to them from the
root, and the folder in which the program works. A path leads from there, or from the root if it
begins with a slash, step by step; a step of two dots leads back. A name has at most 255 octets and
a path at most 4095.

`FileTree.read` reads the text of a file. Main statement: after `FileTree.put`, what was put is
found, and everything else is as it was.
-/

namespace CompileSession

/-- What a file holds. -/
inductive FileContent where
  | octets (values : List UInt8)
  | database (content : Database) (journal : Journal)
  /-- it reads as empty, and what is written to it is lost -/
  | nothing
deriving DecidableEq, Repr

/-- Why the text of a file was not read. -/
inductive FileFault where
  | missing
  | notFolder
  | isFolder
  | nameTooLong
  | notText
deriving DecidableEq, Repr

/-- The text of a file fault. -/
def FileFault.message : FileFault → String
  | .missing => "No such file or directory (os error 2)"
  | .notFolder => "Not a directory (os error 20)"
  | .isFolder => "Is a directory (os error 21)"
  | .nameTooLong => "File name too long (os error 36)"
  | .notText => "stream did not contain valid UTF-8"

namespace FileContent

/-- The text that a file holds. A database is no text. -/
def text? : FileContent → Except FileFault String
  | .octets values =>
    match Text.decode? values with
    | some text => .ok text
    | none => .error .notText
  | .database .. => .error .notText
  | .nothing => .ok ""

/-- What a file is to a database. A single octet counts for nothing, since some systems cannot keep
a file without any. -/
def medium : FileContent → Medium
  | .octets values => if values.length ≤ 1 then .blank else .foreign (frontFault values)
  | .database content journal => .database content journal
  | .nothing => .blank

end FileContent

/-- What is found at the end of a path. -/
inductive Node where
  | folder
  | file (content : FileContent)
deriving DecidableEq, Repr

/-- A tree of files. -/
structure FileTree where
  /-- the steps from the root to the folder in which a program works -/
  here : List String
  /-- what is found under a full path -/
  nodes : List (String × Node)
deriving DecidableEq, Repr

namespace FileTree

/-- The full path to which steps from the root lead. -/
def fullPath (steps : List String) : String := String.join (steps.map ("/" ++ ·))

/-- What is found at the end of some steps from the root. The folder in which a program works is
there, and so are those that lead to it. -/
def node? (t : FileTree) (steps : List String) : Option Node :=
  if t.here.take steps.length = steps then some .folder else t.nodes.lookup (fullPath steps)

/-- The tree after `content` was put at the end of some steps. -/
def put (t : FileTree) (steps : List String) (content : FileContent) : FileTree :=
  { t with nodes := Entries.put (fullPath steps) (.file content) t.nodes }

theorem node?_put (t : FileTree) (steps : List String) (content : FileContent)
    (others : List String) :
    (t.put steps content).node? others =
      if t.here.take others.length = others then some .folder
      else if fullPath others = fullPath steps then some (.file content)
      else t.nodes.lookup (fullPath others) := by
  unfold node? put
  simp only [Entries.lookup_put]

/-! ## Walking -/

/-- A place that a path leads to. -/
inductive Place where
  | folder (steps : List String)
  | file (steps : List String) (content : FileContent)
deriving DecidableEq, Repr

/-- The greatest number of octets in a name. -/
def nameLimit : Nat := 255

/-- The greatest number of octets in a path. -/
def pathLimit : Nat := 4095

/-- One step of a path. -/
def step (t : FileTree) (place : Place) (name : List Char) : Except FileFault Place :=
  match place with
  | .file .. => .error .notFolder
  | .folder steps =>
    if name = [] ∨ name = ['.'] then .ok (.folder steps)
    else if name = ['.', '.'] then .ok (.folder steps.dropLast)
    else if nameLimit < Text.octetCount name then .error .nameTooLong
    else
      let steps := steps ++ [String.ofList name]
      match t.node? steps with
      | none => .error .missing
      | some .folder => .ok (.folder steps)
      | some (.file content) => .ok (.file steps content)

/-- The steps from which a path leads. -/
def start (t : FileTree) (path : List Char) : List String :=
  if path.head? = some '/' then [] else t.here

/-- The place that a path leads to. -/
def walk (t : FileTree) (path : String) : Except FileFault Place :=
  let cs := path.toList
  if pathLimit < Text.octetCount cs then .error .nameTooLong
  else if cs.isEmpty then .error .missing
  else (Text.pieces '/' cs).foldlM t.step (.folder (t.start cs))

/-- The text of the file at a path. -/
def read (t : FileTree) (path : String) : Except FileFault String :=
  match t.walk path with
  | .error e => .error e
  | .ok (.folder _) => .error .isFolder
  | .ok (.file _ content) => content.text?

end FileTree

end CompileSession
