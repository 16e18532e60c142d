import CompileSession.Proofs.Json.Records
import CompileSession.Store.Connection
import CompileSession.Store.Saved

/-!
# What a database keeps of a session

The document of a saved session is read back as that session, whatever its source is. So a database
in which that document stands under the key of the session holds the session: it is loaded from a
connection to the database, and saving another one replaces it.

Results:
1. `Saved.ofText_document` and `Saved.ofText_renderIndented`: a saved session is read back.
2. `Database.find?_upsert`: what is found after a row was put.
3. `Connection.Holds.load` and `Connection.Holds.save`: loading and saving.
4. `Medium.connect_eq_ok_iff`: all that opening a database can do; `Medium.holds_of_connect`: it
   leaves the rows alone.
-/

namespace CompileSession

/-! ## Documents -/

namespace Saved

/-- A saved session as a row of the fields of its document. -/
def row (s : Saved) : Json.Row shape.fields := (s.code, s.verify, ())

theorem nodup_names : (shape.fields.map (·.name)).Nodup := by decide

/-- The document of a saved session is read back. -/
theorem ofText_document (s : Saved) : ofText s.document = .ok s := by
  have hread := Json.readRecord_render shape nodup_names s.row
  unfold ofText
  rw [show s.document = (Json.object (Json.Row.members shape.fields s.row)).render from rfl, hread]
  rfl

/-- A saved session that was written over several lines is read back, whatever blanks come after
it. -/
theorem ofText_renderIndented (s : Saved) {blanks : String}
    (h : blanks.toList.all Json.Scan.isSpace = true) :
    ofText (s.toJson.renderIndented ++ blanks) = .ok s := by
  have hread := Json.readRecord_renderIndented shape nodup_names s.row h
  unfold ofText
  rw [show s.toJson = Json.object (Json.Row.members shape.fields s.row) from rfl, hread]
  rfl

end Saved

/-! ## Rows -/

namespace Database

theorem find?_map (key value : String) (rows : List Row) (other : String) :
    find? other (rows.map fun r => if r.key = key then { r with value := value } else r) =
      if other = key then (find? key rows).map fun _ => value else find? other rows := by
  induction rows with
  | nil => simp [find?]
  | cons r rows ih =>
    rw [List.map_cons]
    by_cases hkey : r.key = key
    · by_cases hother : other = key
      · simp [find?, hkey, hother]
      · have hne : ¬ r.key = other := fun h => hother (h.symm.trans hkey)
        rw [if_pos hkey, find?, if_neg hne, ih, if_neg hother, if_neg hother, find?, if_neg hne]
    · rw [if_neg hkey, find?, ih]
      by_cases hother : other = key
      · simp [find?, hother, hkey]
      · simp [find?, hother]

theorem find?_eq_none {key : String} {rows : List Row} (h : ¬ rows.any (·.key == key)) :
    find? key rows = none := by
  induction rows with
  | nil => rfl
  | cons r rows ih =>
    have hne : ¬ r.key = key := fun heq => h (by simp [heq])
    have hrest : ¬ rows.any (·.key == key) := fun heq => h (by simp [heq])
    rw [find?, if_neg hne, ih hrest]

theorem find?_isSome {key : String} {rows : List Row} (h : rows.any (·.key == key)) :
    (find? key rows).isSome := by
  induction rows with
  | nil => cases h
  | cons r rows ih =>
    unfold find?
    split
    · rfl
    · rename_i hne
      refine ih ?_
      simpa [hne] using h

theorem find?_append (key value : String) (rows : List Row) (other : String) :
    find? other (rows ++ [⟨key, value⟩]) =
      (find? other rows).or (if other = key then some value else none) := by
  induction rows with
  | nil =>
    by_cases h : other = key
    · simp [find?, h]
    · simp [find?, h, Ne.symm h]
  | cons r rows ih =>
    rw [List.cons_append, find?, find?, ih]
    split <;> rfl

/-- The key that was put holds its value, and every other key what it held. -/
theorem find?_upsert (key value : String) (rows : List Row) (other : String) :
    find? other (upsert key value rows) = if other = key then some value else find? other rows := by
  unfold upsert
  split
  -- the key has a row already
  · rename_i hany
    rw [find?_map]
    obtain ⟨old, hold⟩ := Option.isSome_iff_exists.1 (find?_isSome hany)
    rw [hold]
    rfl
  -- the key is new, and its row comes last
  · rename_i hany
    rw [find?_append]
    by_cases h : other = key
    · rw [if_pos h, if_pos h, h, find?_eq_none hany]
      rfl
    · rw [if_neg h, if_neg h, Option.or_none]

end Database

/-! ## Connections -/

/-- A connection to a database of the newest version that may be written. It has the given rows, and
they hold the session saved last, if any was. -/
structure Connection.Holds (c : Connection) (rows : List Row) (last : Option Saved) : Prop where
  content : c.content = ⟨Database.newestVersion, some rows⟩
  fault : c.fault = none
  saved : Database.find? Saved.key rows = last.map Saved.document

namespace Connection

variable {c : Connection} {rows : List Row} {last : Option Saved}

theorem Holds.eq (h : c.Holds rows last) :
    c = ⟨⟨Database.newestVersion, some rows⟩, c.journal, none⟩ := by
  rw [← h.content, ← h.fault]

theorem Holds.get (h : c.Holds rows last) (key : String) :
    KeyValue.get c key = .ok (Database.find? key rows) := by
  rw [h.eq]
  rfl

theorem Holds.set (h : c.Holds rows last) (key value : String) :
    KeyValue.set c key value =
      .ok { c with
        content := ⟨Database.newestVersion, some (Database.upsert key value rows)⟩ } := by
  rw [h.eq]
  rfl

/-- The session saved last is loaded, and nothing is noted. -/
theorem Holds.load (h : c.Holds rows last) : SessionStore.load (some c) = (last, []) := by
  unfold SessionStore.load
  simp only [h.get, h.saved]
  cases last with
  | none => rfl
  | some s => simp only [Option.map_some, Saved.ofText_document]

/-- Saving a session replaces the one saved last. -/
theorem Holds.save (h : c.Holds rows last) (s : Saved) :
    ∃ c' : Connection, SessionStore.save (some c) s = (some c', []) ∧
      c'.Holds (Database.upsert Saved.key s.document rows) (some s) := by
  have hsaved : Database.find? Saved.key (Database.upsert Saved.key s.document rows) =
      some s.document := by
    rw [Database.find?_upsert, if_pos rfl]
  refine ⟨{ c with content := ⟨Database.newestVersion, some _⟩ }, ?_, rfl, h.fault, hsaved⟩
  unfold SessionStore.save
  simp only [h.set]

end Connection

/-! ## Opening -/

/-- The database on a medium and how its journal was kept, if it is not something else. -/
def Medium.content? : Medium → Option (Database × Journal)
  | .blank => some (.blank, .beside)
  | .database content journal => some (content, journal)
  | .foreign _ => none

/-- The rows on a medium, if it has a table once it is brought to the newest version. -/
def Medium.rows? (m : Medium) : Option (List Row) :=
  m.content?.bind fun found => found.1.migrate.toOption.bind Database.table

/-- All that opening can do: the journal is kept as the terms have it, and the schema is brought to
the newest version. -/
theorem Medium.connect_eq_ok_iff {m : Medium} {t : Terms} {c : Connection} :
    m.connect t = .ok c ↔ ∃ content journal kept, m.content? = some (content, journal) ∧
      t.journal journal = .ok kept ∧ Connection.migrate ⟨content, kept, t.fault⟩ = .ok c := by
  have hopened (content : Database) (journal : Journal) :
      (t.journal journal).bind (fun kept => Connection.migrate ⟨content, kept, t.fault⟩) = .ok c ↔
        ∃ kept, t.journal journal = .ok kept ∧
          Connection.migrate ⟨content, kept, t.fault⟩ = .ok c := by
    cases t.journal journal with
    | error e => exact ⟨(fun h => by cases h), fun ⟨_, h, _⟩ => by cases h⟩
    | ok kept => exact ⟨fun h => ⟨kept, rfl, h⟩, fun ⟨_, h, hm⟩ => by cases h; exact hm⟩
  constructor
  · intro h
    cases m with
    | blank =>
      obtain ⟨kept, hkept, hm⟩ := (hopened .blank .beside).1 h
      exact ⟨_, _, kept, rfl, hkept, hm⟩
    | database content journal =>
      obtain ⟨kept, hkept, hm⟩ := (hopened content journal).1 h
      exact ⟨_, _, kept, rfl, hkept, hm⟩
    | foreign fault => cases h
  · rintro ⟨content, journal, kept, hcontent, hkept, hm⟩
    have hconnect := (hopened content journal).2 ⟨kept, hkept, hm⟩
    cases m with
    | foreign fault => cases hcontent
    | _ =>
      cases hcontent
      exact hconnect

theorem Database.version_of_migrate {d d' : Database} (h : d.migrate = .ok d') :
    d'.version = newestVersion := by
  unfold Database.migrate at h
  split at h
  · cases h
    rfl
  split at h
  · rename_i hversion
    cases h
    exact hversion
  · cases h

/-- A connection that can be written has brought its database to the newest version. -/
theorem Connection.content_of_migrate {c c' : Connection} (h : c.migrate = .ok c')
    (hfault : c'.fault = none) : c.content.migrate = .ok c'.content := by
  unfold Connection.migrate at h
  cases hd : c.content.migrate with
  | error e =>
    rw [hd] at h
    cases h
  | ok d =>
    rw [hd] at h
    cases hf : c.fault with
    | none =>
      rw [hf] at h
      cases h
      rfl
    | some f =>
      -- nothing was written then, and the fault is still there
      rw [hf] at h
      by_cases heq : d = c.content
      · simp only [heq, if_true] at h
        cases h
        rw [hf] at hfault
        cases hfault
      · simp only [heq, if_false] at h
        cases h

/-- Opening a database that can be written leaves its rows as they were. -/
theorem Medium.holds_of_connect {m : Medium} {t : Terms} {c : Connection} {rows : List Row}
    {last : Option Saved} (hconnect : m.connect t = .ok c) (hfault : c.fault = none)
    (hrows : m.rows? = some rows)
    (hsaved : Database.find? Saved.key rows = last.map Saved.document) :
    c.Holds rows last := by
  obtain ⟨content, journal, kept, hcontent, -, hmigrate⟩ := Medium.connect_eq_ok_iff.1 hconnect
  have hmigrated : content.migrate = .ok c.content := Connection.content_of_migrate hmigrate hfault
  have hversion := Database.version_of_migrate hmigrated
  have htable : c.content.table = some rows := by
    rw [Medium.rows?, hcontent, Option.bind_some, hmigrated] at hrows
    exact hrows
  refine ⟨?_, hfault, hsaved⟩
  rw [← hversion, ← htable]

/-- A database with rows can be opened and written wherever changes to it can be logged. -/
theorem Medium.connect_of_rows? {m : Medium} {t : Terms} {rows : List Row}
    (hrows : m.rows? = some rows) (hfault : t.fault = none) (hlogs : t.logs = true) :
    ∃ c, m.connect t = .ok c ∧ c.fault = none := by
  obtain ⟨⟨content, journal⟩, hcontent, hd⟩ := Option.bind_eq_some_iff.1 hrows
  have hkept : t.journal journal = .ok .ahead := by
    unfold Terms.journal
    rw [hlogs, hfault]
    cases journal <;> rfl
  cases hm : content.migrate with
  | error e =>
    rw [hm] at hd
    cases hd
  | ok d =>
    refine ⟨⟨d, .ahead, none⟩, ?_, rfl⟩
    refine Medium.connect_eq_ok_iff.2 ⟨content, journal, .ahead, hcontent, hkept, ?_⟩
    unfold Connection.migrate
    rw [hm, hfault]

/-- What is written back has the rows of the connection. -/
theorem Connection.Holds.rows? {c : Connection} {rows : List Row} {last : Option Saved}
    (h : c.Holds rows last) : (Medium.database c.content c.journal).rows? = some rows := by
  rw [h.content]
  rfl

end CompileSession
