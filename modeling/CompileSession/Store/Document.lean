import CompileSession.Json.Reader
import CompileSession.Json.Writer
import CompileSession.Store.Database

/-!
# Databases as documents

A database kept as one JSON document: its version, and its table as an array of keys and values if
it has one.
-/

namespace CompileSession

namespace Database

/-- A row as a JSON value. -/
def rowJson (r : Row) : Json := .array [.text r.key, .text r.value]

/-- A database as a JSON value. -/
def toJson (d : Database) : Json :=
  .object [("version", .number (.integer d.version)),
    ("table", (d.table.map fun rows => Json.array (rows.map rowJson)).getD .null)]

/-- The row that a JSON value describes. -/
def row? : Json → Option Row
  | .array [.text key, .text value] => some ⟨key, value⟩
  | _ => none

/-- The table that a JSON value describes, which may be none. -/
def table? : Json → Option (Option (List Row))
  | .null => some none
  | .array items => (items.mapM row?).map some
  | _ => none

/-- The database that a JSON value describes. -/
def ofJson? : Json → Option Database
  | .object members =>
    match Json.get? "version" members, Json.get? "table" members with
    | some (.number (.integer version)), some table => (table? table).map fun t => ⟨version, t⟩
    | _, _ => none
  | _ => none

/-- The document of a database. -/
def document (d : Database) : String := d.toJson.render

/-- The database of a document. -/
def ofDocument? (text : String) : Option Database :=
  match Json.read text with
  | .error _ => none
  | .ok v => ofJson? v

end Database

end CompileSession
