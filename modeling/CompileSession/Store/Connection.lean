import CompileSession.Store.Database
import CompileSession.Store.Front
import CompileSession.Text.Quoted

/-!
# Connections to databases

A database is opened under terms: whether anything keeps it from being written, and whether changes
to it can be logged ahead of its file. Opening turns the log on where it can, and brings the schema
to the newest version. Either writes, so it fails where nothing can be written; a database that
needs neither can be opened all the same, and is then read only.

`Medium.connect` opens what is found in a file, and `Connection.unkept` a database that is kept
nowhere.
-/

namespace CompileSession

/-- Where a database keeps what it needs to undo a change: in memory, in a file that is deleted
after use, or as a log of changes ahead of its file. -/
inductive Journal where
  | memory
  | beside
  | ahead
deriving DecidableEq, Repr

/-- The name of a way to keep a journal. -/
def Journal.name : Journal → String
  | .memory => "memory"
  | .beside => "delete"
  | .ahead => "wal"

/-- What keeps a database from being written. -/
inductive WriteFault where
  /-- it was opened for reading -/
  | readOnly
  /-- no file can stand beside it to keep its journal -/
  | noJournal
  /-- what is written to its file is lost -/
  | lost
deriving DecidableEq, Repr

namespace WriteFault

/-- The text of a fault. -/
def message : WriteFault → String
  | .readOnly => "attempt to write a readonly database"
  | .noJournal => "unable to open database file"
  | .lost => "disk I/O error"

/-- The name and the number of the kind of a fault. -/
def kind : WriteFault → String × Nat
  | .readOnly => ("ReadOnly", 8)
  | .noJournal => ("CannotOpen", 14)
  | .lost => ("SystemIoFailure", 1034)

/-- A fault as the error of a store. -/
def error (f : WriteFault) : StoreError := .engine f.message

/-- The statement at which setting up the schema meets a fault: none if it is only met in the
end. -/
def statement : WriteFault → String
  | .lost => ""
  | _ => Database.schema

/-- A fault as the error of setting up the schema. -/
def schemaError (f : WriteFault) : StoreError :=
  .migration ("rusqlite_migrate error: RusqliteError \x7b query: " ++ Text.quoted f.statement
    ++ ", err: SqliteFailure(Error \x7b code: " ++ f.kind.1 ++ ", extended_code: "
    ++ toString f.kind.2 ++ " \x7d, Some(" ++ Text.quoted f.message ++ ")) \x7d")

end WriteFault

/-- An open database. -/
structure Connection where
  content : Database
  journal : Journal
  /-- what keeps it from being written, if anything does -/
  fault : Option WriteFault
deriving DecidableEq, Repr

instance : KeyValue Connection where
  get c key := KeyValue.get c.content key
  set c key value :=
    match KeyValue.set c.content key value, c.fault with
    | .error e, _ => .error e
    | .ok _, some f => .error f.error
    | .ok d, none => .ok { c with content := d }

namespace Connection

/-- Brings the schema to the newest version, which writes if it is not that already. -/
def migrate (c : Connection) : Except StoreError Connection :=
  match c.content.migrate, c.fault with
  | .error e, _ => .error e
  | .ok d, none => .ok { c with content := d }
  | .ok d, some f => if d = c.content then .ok c else .error f.schemaError

/-- Opens a database that is kept nowhere. -/
def unkept (journal : Journal) (fault : Option WriteFault) : Except StoreError Connection :=
  migrate ⟨.blank, journal, fault⟩

/-- A connection on which nothing can be set never changes what is read. -/
theorem set_of_fault {c : Connection} {f : WriteFault} (h : c.fault = some f)
    (key value : String) : ∃ e, KeyValue.set c key value = .error e := by
  show ∃ e, (match KeyValue.set c.content key value, c.fault with
    | .error e, _ => .error e
    | .ok _, some f => .error f.error
    | .ok d, none => .ok { c with content := d } : Except StoreError Connection) = .error e
  rw [h]
  cases KeyValue.set c.content key value with
  | error e => exact ⟨e, rfl⟩
  | ok d => exact ⟨f.error, rfl⟩

end Connection

/-- Under which terms a database in a file is opened. -/
structure Terms where
  /-- what keeps it from being written, if anything does -/
  fault : Option WriteFault
  /-- changes can be logged ahead -/
  logs : Bool
  /-- the file is taken for one that nobody changes, so a log is not looked for -/
  settled : Bool
deriving DecidableEq, Repr

/-- What a file is to a database: nothing written yet, a database, or something else. -/
inductive Medium where
  | blank
  | database (content : Database) (journal : Journal)
  | foreign (fault : FrontFault)
deriving DecidableEq, Repr

/-- A log where none can be kept. -/
def cannotLog : StoreError := .engine "unable to open database file"

/-- The journal under the terms of a database that has kept `journal` so far. -/
def Terms.journal (t : Terms) (journal : Journal) : Except StoreError Journal :=
  if journal = .ahead then
    if t.logs then .ok .ahead else if t.settled then .ok .beside else .error cannotLog
  else if t.logs then
    match t.fault with
    | some f => .error f.error
    | none => .ok .ahead
  else .ok journal

/-- Opens the database on a medium. -/
def Medium.connect (m : Medium) (t : Terms) : Except StoreError Connection := do
  let (content, journal) ← match m with
    | .blank => pure (.blank, .beside)
    | .database content journal => pure (content, journal)
    | .foreign fault => throw (.engine fault.message)
  Connection.migrate ⟨content, ← t.journal journal, t.fault⟩

end CompileSession
