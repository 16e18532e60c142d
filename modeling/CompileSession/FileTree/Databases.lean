import CompileSession.FileTree.Basic
import CompileSession.Store.Name

/-!
# Databases in files

The path of a database leads to a file once its steps of two dots are taken back, whether or not
there is anything before them. `FileTree.connect` opens the database at a path, which makes an empty
file if there is none and it may, and `FileTree.keepIn` writes the database back to the file to
which the path led when it was opened.

Files stand beside that of a database while it is in use, so its own name must leave room for what
is added to it in their names.
-/

namespace CompileSession

namespace FileTree

/-- The number of octets that no full path on the way to a database reaches, and that of a database
with what is added to it does not pass. -/
def databaseLimit : Nat := 512

/-- The number of octets added to the name of a database for its journal. -/
def journalRoom : Nat := 8

/-- The number of octets added to the name of a database for the file that guards it. -/
def guardRoom : Nat := 5

/-- The greatest number of octets in the name of a database in memory, with the room for a
journal. -/
def namedLimit : Nat := 1024

/-- The steps of a path taken one further, if there can be such a file. A file on the way has none
below it. -/
def descend (t : FileTree) (steps : List String) (name : List Char) : Option (List String) :=
  if name = [] ∨ name = ['.'] then some steps
  else if name = ['.', '.'] then some steps.dropLast
  else
    let steps := steps ++ [String.ofList name]
    if databaseLimit ≤ Text.octetCount (fullPath steps).toList then none
    else
      match (steps.map String.toList).foldlM t.step (.folder []) with
      | .error .missing => some steps
      | .error _ => none
      | .ok _ => some steps

/-- The steps that lead to the database at a path, if there can be one. -/
def databaseSteps? (t : FileTree) (path : String) : Option (List String) := do
  let cs := path.toList
  let steps ← (Text.pieces '/' cs).foldlM t.descend (t.start cs)
  if steps.isEmpty ∨ databaseLimit < Text.octetCount (fullPath steps).toList + journalRoom then none
  else some steps

/-- A path at which no database can be. -/
def cannotOpen (path : String) : StoreError :=
  .engine ("unable to open database file: " ++ path)

/-- A file that is there, but cannot be used. -/
def diskError : StoreError := .engine WriteFault.lost.message

/-- The number of octets in the last of some steps. -/
def lastLength (steps : List String) : Nat :=
  Text.octetCount ((steps.getLast?.map String.toList).getD [])

/-- The terms under which a database is opened in a file. -/
def terms (n : DatabaseName) (steps : List String) (content : FileContent) : Terms where
  fault :=
    if n.access = .readOnly ∨ n.settled then some .readOnly
    else if content = .nothing then some .lost
    else if nameLimit < lastLength steps + journalRoom then some .noJournal
    else none
  logs := n.guard = .locks
  settled := n.settled

/-- Opens the database in a file of which the content is known. -/
def connectContent (n : DatabaseName) (steps : List String) (content : FileContent) :
    Except StoreError Connection :=
  if n.guard = .lockFile ∧ nameLimit < lastLength steps + guardRoom then .error diskError
  else content.medium.connect (terms n steps content)

/-- Opens the database in the file at the end of some steps, to which `path` leads; the file is made
if it is missing and may be made. -/
def connectFile (t : FileTree) (path : String) (n : DatabaseName) (steps : List String) :
    Except StoreError Connection × FileTree :=
  if n.permissionsOf.any fun other => (t.walk other).toOption.isNone then (.error diskError, t)
  else
    match t.node? steps with
    | some .folder =>
      (.error (if n.access = .readOnly then diskError else cannotOpen path), t)
    | some (.file content) => (connectContent n steps content, t)
    | none =>
      if n.access = .create ∧ t.node? steps.dropLast = some .folder then
        (connectContent n steps (.octets []), t.put steps (.octets []))
      else (.error (cannotOpen path), t)

/-- Opens the database at a path, and gives the tree after that. -/
def connect (t : FileTree) (path : String) : Except StoreError Connection × FileTree :=
  match DatabaseName.ofPath path with
  | .error e => (.error e, t)
  | .ok n =>
    let readOnly : Option WriteFault := if n.access = .readOnly then some .readOnly else none
    match n.place with
    | .memory => (Connection.unkept .memory readOnly, t)
    | .temporary => (Connection.unkept .beside readOnly, t)
    | .named name =>
      if namedLimit < Text.octetCount name.toList + journalRoom then (.error (cannotOpen path), t)
      else (Connection.unkept .memory (if n.settled then some .readOnly else readOnly), t)
    | .file file =>
      match t.databaseSteps? file with
      | none => (.error (cannotOpen path), t)
      | some steps => t.connectFile path n steps

/-- The steps that lead to the file of a database, if its path names one. -/
def databaseFile? (t : FileTree) (path : String) : Option (List String) := do
  let n ← (DatabaseName.ofPath path).toOption
  match n.place with
  | .file file => t.databaseSteps? file
  | _ => none

/-- Writes a database back to the file in which it was opened, if it is in a file and may be
written. -/
def keepIn (t : FileTree) (file : Option (List String)) (c : Connection) : FileTree :=
  match file, c.fault with
  | some steps, none => t.put steps (.database c.content c.journal)
  | _, _ => t

/-- Writes a database back to the file to which a path leads now. -/
def keep (t : FileTree) (path : String) (c : Connection) : FileTree :=
  t.keepIn (t.databaseFile? path) c

/-! ## While a database is open -/

/-- The steps to a file beside another, with something added to its name. -/
def beside (steps : List String) (added : String) : List String :=
  steps.dropLast ++ [steps.getLast?.getD "" ++ added]

/-- The file of a database that is logged ahead, and its log, while it is open as `content`. -/
def logged (content : Database) : FileContent → FileContent × FileContent
  | .database old journal =>
    (.database old journal, .octets (if old = content then [] else Front.logMark))
  | _ => (.octets Front.page, .octets Front.logMark)

/-- The tree as it is found while a database is open that was just opened in a file: what opening
changed is not in the file of the database yet if it is logged ahead. -/
def whileOpen (t : FileTree) (file : Option (List String)) (c : Connection) : FileTree :=
  match file, c.journal with
  | some steps, .ahead =>
    match t.node? steps with
    | some (.file content) =>
      let (file, log) := logged c.content content
      ((t.put steps file).put (beside steps "-wal") log).put (beside steps "-shm")
        (.octets Front.indexMark)
    | _ => t
  | _, _ => t.keepIn file c

end FileTree

end CompileSession
