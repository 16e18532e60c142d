import CompileSession.Store.KeyValue

/-!
# The session database

A database has a schema version and, once its schema was set up, the table `kv_entries` with one
row for each key. Opening brings the schema to the newest version, which is 1: version 0 gets the
table unless it is there already, version 1 is left as it is, and any other version was written by
a program that knows more, so it is refused. A database of version 1 is not looked into when it is
opened; without its table every later operation fails.
-/

namespace CompileSession

/-- A row of the table. -/
structure Row where
  key : String
  value : String
deriving DecidableEq, Repr

/-- What a database holds. -/
structure Database where
  version : Int
  table : Option (List Row)
deriving DecidableEq, Repr

namespace Database

/-- A database that was never written. -/
def blank : Database := ⟨0, none⟩

/-- A database without a table that is marked with a version. The mark has 32 bits; a number that
does not fit leaves it as it was. -/
def marked (version : Int) : Database :=
  ⟨if -2147483648 ≤ version ∧ version < 2147483648 then version else blank.version, none⟩

/-- The newest schema version. -/
def newestVersion : Int := 1

/-- A database written by a program that knows more. -/
def tooFarAhead : StoreError :=
  .migration "rusqlite_migrate error: MigrationDefinition(DatabaseTooFarAhead)"

/-- The statement that sets up the table. -/
def schema : String :=
  "CREATE TABLE IF NOT EXISTS kv_entries (\n"
    ++ "    key TEXT PRIMARY KEY NOT NULL,\n"
    ++ "    value TEXT NOT NULL,\n"
    ++ "    updated_at TEXT NOT NULL DEFAULT (strftime('%Y-%m-%dT%H:%M:%fZ', 'now'))\n"
    ++ ");\n"

/-- A database without its table. -/
def noTable : StoreError := .engine "no such table: kv_entries"

/-- Brings the schema to the newest version. -/
def migrate (d : Database) : Except StoreError Database :=
  if d.version = 0 then .ok ⟨newestVersion, some (d.table.getD [])⟩
  else if d.version = newestVersion then .ok d
  else .error tooFarAhead

/-- The value in the row of `key`. -/
def find? (key : String) : List Row → Option String
  | [] => none
  | r :: rows => if r.key = key then some r.value else find? key rows

/-- Inserts a row, or updates the value of the row that has the key already. -/
def upsert (key value : String) (rows : List Row) : List Row :=
  if rows.any (·.key == key) then
    rows.map fun r => if r.key = key then { r with value := value } else r
  else rows ++ [⟨key, value⟩]

instance : KeyValue Database where
  get d key :=
    match d.table with
    | none => .error noTable
    | some rows => .ok (find? key rows)
  set d key value :=
    match d.table with
    | none => .error noTable
    | some rows => .ok { d with table := some (upsert key value rows) }

end Database

/-- Where a database lives: in memory for one process, or in a file. -/
inductive Location where
  | memory
  | file (path : String)
deriving DecidableEq, Repr

namespace Location

/-- The path that stands for a database in memory. -/
def memoryPath : String := ":memory:"

/-- The location that a path names. -/
def ofPath (path : String) : Location := if path = memoryPath then .memory else .file path

/-- The name of a kind of location. -/
def name : Location → String
  | .memory => "memory"
  | .file _ => "file"

end Location

end CompileSession
