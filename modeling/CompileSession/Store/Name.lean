import CompileSession.Store.Connection
import CompileSession.Text.Decimal
import CompileSession.Text.Percent
import CompileSession.Text.Pieces

/-!
# Names of databases

The path of a database may name a file, but also a database in memory, or, if it is empty, a
private one that is gone when it is closed. A path that begins with `file:` is an address: percent
signs in it are read, a question mark begins options and a number sign ends it. The options say how
the database is opened. Those that ask for access or for a system are checked in turn, and of either
kind the last one counts; of the others the first one does.
-/

namespace CompileSession

/-- Where a database is. -/
inductive DatabasePlace where
  | memory
  | temporary
  /-- in memory, under a name -/
  | named (name : String)
  | file (path : String)
deriving DecidableEq, Repr

/-- What is asked of the file of a database: to be read, to be written too, or to be made as well if
it is missing. -/
inductive Access where
  | readOnly
  | readWrite
  | create
deriving DecidableEq, Repr

/-- How much an access allows. -/
def Access.rank : Access → Nat
  | .readOnly => 0
  | .readWrite => 1
  | .create => 2

/-- How a file is kept from being changed by others at the same time. -/
inductive Guard where
  /-- by locks on the file, which let changes be logged ahead -/
  | locks
  /-- by a file beside it -/
  | lockFile
  | nothing
deriving DecidableEq, Repr

/-- What the path of a database says. -/
structure DatabaseName where
  place : DatabasePlace
  access : Access
  guard : Guard
  /-- the file is taken for one that nobody changes -/
  settled : Bool
  /-- the path of the file after which new ones take their permissions, if one is named -/
  permissionsOf : Option String
deriving DecidableEq, Repr

namespace DatabaseName

/-- The place that plain text spells. -/
def placeOf (path : String) : DatabasePlace :=
  if path = Location.memoryPath then .memory
  else if path.isEmpty then .temporary
  else .file path

/-- A place without options. -/
def plain (place : DatabasePlace) : DatabaseName := ⟨place, .create, .locks, false, none⟩

/-! ## Options -/

/-- An option: its name and its value. -/
abbrev Setting := String × String

/-- The text of a part of an address, up to its first NUL. -/
def decoded (cs : List Char) : String :=
  Text.decodeLossy ((Text.Percent.decode cs).takeWhile (· != 0))

/-- The name and the value of an option. -/
def readSetting (cs : List Char) : Setting :=
  (decoded (cs.takeWhile (· != '=')), decoded ((cs.dropWhile (· != '=')).drop 1))

/-- The options of a list in which `&` stands between them. One without a name is none. -/
def readSettings (cs : List Char) : List Setting :=
  ((Text.pieces '&' cs).map readSetting).filter (·.1 != "")

/-- The value of the first option of a name. -/
def setting? (name : String) (settings : List Setting) : Option String := settings.lookup name

/-- The words for yes, in small letters. -/
def yesWords : List String := ["on", "yes", "true"]

/-- The greatest number in an option that does not count as 0. -/
def numberLimit : Nat := 2147483647

/-- The number at the front of some characters, which may be hexadecimal after `0x`. -/
def frontNumber (cs : List Char) : Nat :=
  match cs with
  | '0' :: x :: d :: rest =>
    if (x = 'x' ∨ x = 'X') ∧ (Text.hexDigit? d).isSome then
      (((d :: rest).map Text.hexDigit?).takeWhile Option.isSome).foldl
        (fun n v => 16 * n + v.getD 0) 0
    else (Text.natural? (cs.takeWhile Text.isDigit)).getD 0
  | cs => (Text.natural? (cs.takeWhile Text.isDigit)).getD 0

/-- Whether a value says yes: a word for it, or a number whose last octet is not 0. -/
def saysYes (value : String) : Bool :=
  let n := frontNumber value.toList
  yesWords.contains (String.ofList (value.toList.map Char.toLower))
    || (n ≤ numberLimit && n % 256 != 0)

/-! ## Access -/

/-- What an option may ask for: a place in memory, or access to a file. -/
inductive Asked where
  | memory
  | file (access : Access)
deriving DecidableEq, Repr

/-- The words that ask for access. -/
def accessWords : List (String × Asked) :=
  [("ro", .file .readOnly), ("rw", .file .readWrite), ("rwc", .file .create), ("memory", .memory)]

/-- Whether `new` may be asked for after `old`: access to a file may only shrink. -/
def Asked.admits (old new : Asked) : Bool :=
  match old, new with
  | .file old, .file new => new.rank ≤ old.rank
  | _, _ => true

/-- The words for a cache of one's own or a common one; either makes no difference here. -/
def cacheWords : List String := ["shared", "private"]

/-- What is asked for after an option. -/
def ask (old : Asked) (s : Setting) : Except StoreError Asked :=
  if s.1 = "mode" then
    match accessWords.lookup s.2 with
    | none => .error (.engine ("no such access mode: " ++ s.2))
    | some new =>
      if old.admits new then .ok new
      else .error (.engine ("access mode not allowed: " ++ s.2))
  else if s.1 = "cache" ∧ !cacheWords.contains s.2 then
    .error (.engine ("no such cache mode: " ++ s.2))
  else .ok old

/-! ## Systems -/

/-- A system through which files are reached, and what it does. -/
inductive FileSystem where
  | guarded (guard : Guard)
  | memory
deriving DecidableEq, Repr

/-- The systems by their names. -/
def systems : List (String × FileSystem) :=
  [("unix", .guarded .locks), ("unix-none", .guarded .nothing),
   ("unix-dotfile", .guarded .lockFile), ("unix-excl", .guarded .locks), ("memdb", .memory)]

/-- The system that options name. -/
def system (settings : List Setting) : Except StoreError FileSystem :=
  match setting? "vfs" settings.reverse with
  | none => .ok (.guarded .locks)
  | some name =>
    match systems.lookup name with
    | some s => .ok s
    | none => .error (.engine ("no such vfs: " ++ name))

/-! ## Reading -/

/-- What stands between the two slashes of an address and its path, and the path. -/
def cutAuthority : List Char → List Char × List Char
  | '/' :: '/' :: rest => (rest.takeWhile (· != '/'), rest.dropWhile (· != '/'))
  | cs => ([], cs)

/-- The name of a path with options. -/
def withSettings (path : String) (settings : List Setting) : Except StoreError DatabaseName := do
  let asked ← settings.foldlM ask (.file .create)
  let system ← system settings
  let place := match asked, placeOf path, system with
    | .memory, _, _ => .memory
    | _, .file path, .memory => .named path
    | _, place, _ => place
  let yes (name : String) : Bool := (setting? name settings).any saysYes
  let settled := yes "immutable"
  return {
    place := place
    access := match asked with | .file access => access | .memory => .create
    guard :=
      if settled || yes "nolock" then .nothing
      else match system with | .guarded guard => guard | .memory => .nothing
    settled := settled
    permissionsOf := setting? "modeof" settings }

/-- The name that an address spells, after its `file:`. -/
def ofAddress (cs : List Char) : Except StoreError DatabaseName :=
  let (authority, rest) := cutAuthority cs
  if !authority.isEmpty && authority != "localhost".toList then
    .error (.engine ("invalid uri authority: " ++ String.ofList authority))
  else
    let rest := rest.takeWhile (· != '#')
    withSettings (decoded (rest.takeWhile (· != '?')))
      (readSettings ((rest.dropWhile (· != '?')).drop 1))

/-- The name that a path spells. A path cannot hold a NUL. -/
def ofPath (path : String) : Except StoreError DatabaseName :=
  let cs := path.toList
  if cs.contains '\x00' then
    .error (.engine ("nul byte found in provided data at position: "
      ++ toString (Text.octetCount (cs.takeWhile (· != '\x00')))))
  else if cs.take 5 = "file:".toList then ofAddress (cs.drop 5)
  else .ok (plain (placeOf path))

end DatabaseName

end CompileSession
