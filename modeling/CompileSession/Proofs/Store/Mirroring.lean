import CompileSession.Proofs.Except
import CompileSession.Proofs.Store.Saving

/-!
# A database answers as a store in memory does

A database keeps its entries as rows of a table, and may be closed and opened again at any time; a
store in memory keeps them as a list, for as long as it lives. Whatever is set and read, nobody can
tell the two apart: setting a key replaces the row of that key if there is one, and opening sets up
the table only where there is none.

`StoreCall.makeAll` makes calls to a store one after the other. Closing a store and opening it again
is one of them, so that the same calls can be made to a store in memory, which is not changed by it.

Results:
1. `Database.map_key_upsert`: the keys of the table after a row was put.
2. `Mirrors.make`: the invariant of one call, and `Mirrors.makeAll` that of all.
3. `Connection.Writable.makeAll`: no call fails if the file can be written and locked.
4. `database_answers_as_memory`: all of this for a database that starts empty.
-/

namespace CompileSession

/-! ## Calls -/

/-- One thing done with a store. -/
inductive StoreCall where
  | set (key value : String)
  | get (key : String)
  /-- the store is closed, and opened again under some terms -/
  | reopen (terms : Terms)
deriving DecidableEq, Repr

namespace StoreCall

variable {σ : Type} [KeyValue σ] (reopened : Terms → σ → Except StoreError σ)

/-- The store after a call, and what the call answers, if it reads. -/
def make (s : σ) : StoreCall → Except StoreError (σ × List (Option String))
  | .set key value => (KeyValue.set s key value).map fun s => (s, [])
  | .get key => (KeyValue.get s key).map fun value => (s, [value])
  | .reopen t => (reopened t s).map fun s => (s, [])

/-- The store after calls, one after the other, and all that they answer. -/
def makeAll (s : σ) : List StoreCall → Except StoreError (σ × List (Option String))
  | [] => .ok (s, [])
  | call :: calls => do
    let (s, first) ← make reopened s call
    let (s, rest) ← makeAll s calls
    return (s, first ++ rest)

variable {reopened}

theorem makeAll_cons_eq_ok_iff {s last : σ} {call : StoreCall} {calls : List StoreCall}
    {answers : List (Option String)} :
    makeAll reopened s (call :: calls) = .ok (last, answers) ↔ ∃ next first rest,
      make reopened s call = .ok (next, first) ∧ makeAll reopened next calls = .ok (last, rest) ∧
        answers = first ++ rest := by
  rw [makeAll, bind_eq_ok_iff]
  constructor
  · rintro ⟨⟨next, first⟩, hfirst, h⟩
    obtain ⟨⟨_, rest⟩, hrest, h⟩ := bind_eq_ok_iff.1 h
    cases h
    exact ⟨next, first, rest, hfirst, hrest, rfl⟩
  · rintro ⟨next, first, rest, hfirst, hrest, rfl⟩
    exact ⟨(next, first), hfirst, bind_eq_ok_iff.2 ⟨(last, rest), hrest, rfl⟩⟩

end StoreCall

/-- Closes a database, which leaves it to its file, and opens the file again. -/
def Connection.reopened (t : Terms) (c : Connection) : Except StoreError Connection :=
  (Medium.database c.content c.journal).connect t

/-- A store in memory after the same was done to it, which is nothing. -/
def Memory.reopened (_ : Terms) (m : Memory) : Except StoreError Memory := .ok m

/-- The terms of a file that can be written and locked. -/
structure Terms.Ordinary (t : Terms) : Prop where
  fault : t.fault = none
  logs : t.logs = true

/-- A database that was never written, before some calls: one in a file, or one that is kept nowhere
and so is not opened again. -/
inductive Fresh (c : Connection) (calls : List StoreCall) : Prop where
  | file {t : Terms} : Medium.blank.connect t = .ok c → Fresh c calls
  | unkept {journal : Journal} {fault : Option WriteFault} :
      Connection.unkept journal fault = .ok c → (∀ t, .reopen t ∉ calls) → Fresh c calls

/-! ## Rows -/

/-- The key that was put has one row, where it was or behind the others, and the rows of the other
keys stay. -/
theorem Database.map_key_upsert (key value : String) (rows : List Row) :
    (upsert key value rows).map (·.key) =
      if key ∈ rows.map (·.key) then rows.map (·.key) else rows.map (·.key) ++ [key] := by
  have hmem : key ∈ rows.map (·.key) ↔ rows.any (·.key == key) := by simp
  unfold upsert
  by_cases h : rows.any (·.key == key)
  · rw [if_pos h, if_pos (hmem.2 h), List.map_map]
    refine List.map_congr_left fun r _ => ?_
    show (if r.key = key then { r with value := value } else r).key = r.key
    split <;> rfl
  · rw [if_neg h, if_neg (mt hmem.1 h), List.map_append]
    rfl

/-! ## What mirrors a store in memory -/

/-- After some calls a database answers every question as a store in memory does. It is of the
newest version, and its table has one row for each key that was set. -/
structure Mirrors (c : Connection) (rows : List Row) (m : Memory) (past : List StoreCall) :
    Prop where
  content : c.content = ⟨Database.newestVersion, some rows⟩
  alike : ∀ key, Database.find? key rows = m.get? key
  once : (rows.map (·.key)).Nodup
  keys : ∀ key, key ∈ rows.map (·.key) ↔ ∃ value, .set key value ∈ past

namespace Mirrors

variable {c : Connection} {rows : List Row} {m : Memory} {past : List StoreCall}

theorem table (h : Mirrors c rows m past) : c.content.table = some rows := by
  rw [h.content]

theorem get (h : Mirrors c rows m past) (key : String) :
    KeyValue.get c key = .ok (m.get? key) := by
  show KeyValue.get c.content key = _
  rw [h.content, ← h.alike key]
  rfl

/-- A call that sets no key leaves the keys that were set. -/
theorem quiet (h : Mirrors c rows m past) {call : StoreCall}
    (hcall : ∀ key value, call ≠ .set key value) : Mirrors c rows m (past ++ [call]) where
  content := h.content
  alike := h.alike
  once := h.once
  keys key := by
    rw [h.keys key]
    refine exists_congr fun value => ?_
    rw [List.mem_append, List.mem_singleton, or_iff_left (hcall key value).symm]

theorem set (h : Mirrors c rows m past) {key value : String} {next : Connection}
    (hset : KeyValue.set c key value = .ok next) :
    Mirrors next (Database.upsert key value rows) (m.insert key value)
      (past ++ [.set key value]) := by
  obtain ⟨-, d, hd, rfl⟩ := Connection.set_eq_ok_iff.1 hset
  obtain ⟨old, htable, rfl⟩ := Database.set_eq_ok_iff.1 hd
  obtain rfl : rows = old := Option.some.inj (h.table.symm.trans htable)
  refine ⟨by rw [h.content], fun other => ?_, ?_, fun other => ?_⟩
  · rw [Database.find?_upsert, Memory.get?_insert, h.alike]
  · rw [Database.map_key_upsert]
    split
    · exact h.once
    · rename_i hnew
      exact List.nodup_append.2 ⟨h.once, List.nodup_singleton key, fun a ha b hb heq =>
        hnew (List.mem_singleton.1 hb ▸ heq ▸ ha)⟩
  · have hpast : (∃ v, StoreCall.set other v ∈ past ++ [.set key value]) ↔
        (∃ v, StoreCall.set other v ∈ past) ∨ other = key := by
      simp only [List.mem_append, List.mem_singleton, StoreCall.set.injEq, exists_or,
        exists_and_left, exists_eq, and_true]
    rw [hpast, ← h.keys other, Database.map_key_upsert]
    split
    · rename_i hold
      exact ⟨.inl, fun hor => hor.elim id fun heq => heq ▸ hold⟩
    · rw [List.mem_append, List.mem_singleton]

theorem reopen (h : Mirrors c rows m past) {t : Terms} {next : Connection}
    (hopen : c.reopened t = .ok next) : Mirrors next rows m (past ++ [.reopen t]) := by
  have hversion : c.content.version = Database.newestVersion := by rw [h.content]
  have hcontent := Connection.content_of_connect hversion hopen
  exact quiet { h with content := hcontent.trans h.content } nofun

/-- A call that does not fail answers as it does when it is made to the store in memory. -/
theorem make (h : Mirrors c rows m past) {call : StoreCall} {next : Connection}
    {answers : List (Option String)}
    (hcall : call.make Connection.reopened c = .ok (next, answers)) :
    ∃ rows' m', call.make Memory.reopened m = .ok (m', answers) ∧
      Mirrors next rows' m' (past ++ [call]) := by
  cases call with
  | set key value =>
    obtain ⟨kept, hset, heq⟩ := map_eq_ok_iff.1 hcall
    cases heq
    exact ⟨_, _, rfl, h.set hset⟩
  | get key =>
    obtain ⟨found, hget, heq⟩ := map_eq_ok_iff.1 hcall
    cases heq
    obtain rfl : m.get? key = found := Except.ok.inj ((h.get key).symm.trans hget)
    exact ⟨rows, m, rfl, h.quiet nofun⟩
  | reopen t =>
    obtain ⟨kept, hopen, heq⟩ := map_eq_ok_iff.1 hcall
    cases heq
    exact ⟨rows, m, rfl, h.reopen hopen⟩

/-- So do calls one after the other. -/
theorem makeAll (h : Mirrors c rows m past) {calls : List StoreCall} {last : Connection}
    {answers : List (Option String)}
    (hcalls : StoreCall.makeAll Connection.reopened c calls = .ok (last, answers)) :
    ∃ rows' m', StoreCall.makeAll Memory.reopened m calls = .ok (m', answers) ∧
      Mirrors last rows' m' (past ++ calls) := by
  induction calls generalizing c rows m past answers with
  | nil =>
    cases hcalls
    rw [List.append_nil]
    exact ⟨rows, m, rfl, h⟩
  | cons call calls ih =>
    obtain ⟨next, first, rest, hfirst, hrest, rfl⟩ := StoreCall.makeAll_cons_eq_ok_iff.1 hcalls
    obtain ⟨rows₁, m₁, hm₁, h₁⟩ := h.make hfirst
    obtain ⟨rows₂, m₂, hm₂, h₂⟩ := ih h₁ hrest
    rw [List.append_assoc] at h₂
    exact ⟨rows₂, m₂, StoreCall.makeAll_cons_eq_ok_iff.2 ⟨m₁, first, rest, hm₁, hm₂, rfl⟩, h₂⟩

end Mirrors

/-! ## How a database starts -/

/-- Whatever opens a database that was never written sets up an empty table. -/
theorem Connection.content_of_migrate_blank {journal : Journal} {fault : Option WriteFault}
    {c : Connection} (h : migrate ⟨.blank, journal, fault⟩ = .ok c) :
    c.content = ⟨Database.newestVersion, some []⟩ := by
  cases fault with
  | none =>
    cases h
    rfl
  | some f => cases h

theorem Fresh.content {c : Connection} {calls : List StoreCall} (h : Fresh c calls) :
    c.content = ⟨Database.newestVersion, some []⟩ := by
  cases h with
  | file hconnect =>
    obtain ⟨content, journal, kept, hcontent, -, hmigrate⟩ := Medium.connect_eq_ok_iff.1 hconnect
    cases hcontent
    exact Connection.content_of_migrate_blank hmigrate
  | unkept hopen _ => exact Connection.content_of_migrate_blank hopen

/-- It mirrors the store in memory without entries. -/
theorem Fresh.mirrors {c : Connection} {calls : List StoreCall} (h : Fresh c calls) :
    Mirrors c [] .empty [] where
  content := h.content
  alike _ := rfl
  once := .nil
  keys _ := ⟨fun h => absurd h List.not_mem_nil, fun ⟨_, h⟩ => absurd h List.not_mem_nil⟩

/-! ## Calls that do not fail -/

namespace Connection

theorem Writable.of_content {c : Connection} {rows : List Row}
    (h : c.content = ⟨Database.newestVersion, some rows⟩) (hfault : c.fault = none) : c.Writable where
  version := by rw [h]
  table := ⟨rows, by rw [h]⟩
  fault := hfault

/-- A database that can be written is opened again, and can be written again. -/
theorem Writable.reopen {c : Connection} (h : c.Writable) {t : Terms} (ht : t.Ordinary) :
    ∃ next, c.reopened t = .ok next ∧ next.Writable := by
  obtain ⟨rows, htable⟩ := h.table
  have hcontent : c.content = ⟨Database.newestVersion, some rows⟩ := by
    rw [← h.version, ← htable]
  have hrows : (Medium.database c.content c.journal).rows? = some rows := by
    rw [hcontent]
    rfl
  obtain ⟨next, hopen, hfault⟩ := Medium.connect_of_rows? hrows ht.fault ht.logs
  have hkept := (content_of_connect h.version hopen).trans hcontent
  exact ⟨next, hopen, .of_content hkept hfault⟩

theorem Writable.make {c : Connection} (h : c.Writable) {call : StoreCall}
    (hcall : ∀ t, call = .reopen t → t.Ordinary) :
    ∃ next answers, call.make Connection.reopened c = .ok (next, answers) ∧ next.Writable := by
  cases call with
  | set key value =>
    obtain ⟨next, hset, hnext⟩ := h.set key value
    exact ⟨next, _, map_eq_ok_iff.2 ⟨next, hset, rfl⟩, hnext⟩
  | get key =>
    obtain ⟨rows, htable⟩ := h.table
    have hget : KeyValue.get c key = .ok (Database.find? key rows) := by
      show KeyValue.get c.content key = _
      simp only [KeyValue.get, htable]
    exact ⟨c, _, map_eq_ok_iff.2 ⟨_, hget, rfl⟩, h⟩
  | reopen t =>
    obtain ⟨next, hopen, hnext⟩ := h.reopen (hcall t rfl)
    exact ⟨next, _, map_eq_ok_iff.2 ⟨next, hopen, rfl⟩, hnext⟩

theorem Writable.makeAll {c : Connection} (h : c.Writable) {calls : List StoreCall}
    (hcalls : ∀ t, .reopen t ∈ calls → t.Ordinary) :
    ∃ last answers, StoreCall.makeAll Connection.reopened c calls = .ok (last, answers) := by
  induction calls generalizing c with
  | nil => exact ⟨c, [], rfl⟩
  | cons call calls ih =>
    obtain ⟨next, first, hfirst, hnext⟩ :=
      h.make fun t heq => hcalls t (heq ▸ List.mem_cons_self)
    obtain ⟨last, rest, hrest⟩ := ih hnext fun t hmem => hcalls t (List.mem_cons_of_mem _ hmem)
    exact ⟨last, first ++ rest,
      StoreCall.makeAll_cons_eq_ok_iff.2 ⟨next, first, rest, hfirst, hrest, rfl⟩⟩

end Connection

/-- A database that starts empty answers as a store in memory does, whatever keys are set and read
in it and however often it is closed and opened again in between. A file that can be written and
locked is opened, and then no call fails, as long as it stays such a file; nor does one to a
database that is kept nowhere. As long as none failed, the answers are those of the same calls to
one store in memory, one by one; the table has one row for each key that was ever set and no other;
and setting a key leaves what every other key holds. -/
theorem database_answers_as_memory (calls : List StoreCall) :
    (∀ t : Terms, t.Ordinary → ∃ c, Medium.blank.connect t = .ok c ∧ c.fault = none) ∧
    (∀ c, Fresh c calls → c.fault = none → (∀ t, .reopen t ∈ calls → t.Ordinary) →
      ∃ last answers, StoreCall.makeAll Connection.reopened c calls = .ok (last, answers)) ∧
    ∀ c last answers, Fresh c calls →
      StoreCall.makeAll Connection.reopened c calls = .ok (last, answers) →
      (∃ m, StoreCall.makeAll Memory.reopened .empty calls = .ok (m, answers)) ∧
      (∃ rows, last.content.table = some rows ∧ (rows.map (·.key)).Nodup ∧
        ∀ key, (∃ r ∈ rows, r.key = key) ↔ ∃ value, .set key value ∈ calls) ∧
      ∀ key value next, KeyValue.set last key value = .ok next →
        ∀ other, other ≠ key → KeyValue.get next other = KeyValue.get last other := by
  refine ⟨fun t ht => ?_, fun c hfresh hfault hcalls => ?_, fun c last answers hfresh hrun => ?_⟩
  · exact Medium.connect_of_rows? rfl ht.fault ht.logs
  · exact (Connection.Writable.of_content hfresh.content hfault).makeAll hcalls
  · obtain ⟨rows, m, hm, h⟩ := hfresh.mirrors.makeAll hrun
    refine ⟨⟨m, hm⟩, ⟨rows, h.table, h.once, fun key => ?_⟩,
      fun key value next hset other hne => ?_⟩
    · rw [← List.mem_map, h.keys key, List.nil_append]
    · exact KeepsWrites.get_set_of_ne hset hne

/-- A file that can be written and locked. -/
def plainTerms : Terms := ⟨none, true, false⟩

theorem answers_as_memory_acrossOpenings :
    let calls : List StoreCall := [.set "k" "one", .reopen plainTerms, .get "k", .set "k" "two",
      .set "\x00'" "", .reopen plainTerms, .get "k", .get "\x00'", .get ""]
    plainTerms.Ordinary ∧ ∃ c last, Fresh c calls ∧ StoreCall.makeAll Connection.reopened c calls =
        .ok (last, [some "one", some "two", some "", none]) ∧
      ∃ rows, last.content.table = some rows ∧ (rows.map (·.key)).Nodup ∧
        (∃ r ∈ rows, r.key = "\x00'") ∧ ¬ ∃ r ∈ rows, r.key = "" := by
  intro calls
  have hterms : plainTerms.Ordinary := ⟨rfl, rfl⟩
  obtain ⟨hopens, hruns, hanswers⟩ := database_answers_as_memory calls
  obtain ⟨c, hconnect, hfault⟩ := hopens plainTerms hterms
  have hfresh : Fresh c calls := .file hconnect
  have hcalls : ∀ t, .reopen t ∈ calls → t.Ordinary := by
    intro t ht
    obtain rfl : t = plainTerms := by simpa [calls] using ht
    exact hterms
  obtain ⟨last, answers, hrun⟩ := hruns c hfresh hfault hcalls
  obtain ⟨⟨m, hm⟩, ⟨rows, htable, honce, hkeys⟩, -⟩ := hanswers c last answers hfresh hrun
  obtain rfl : answers = [some "one", some "two", some "", none] := by
    have hmemory : StoreCall.makeAll Memory.reopened .empty calls =
      .ok (⟨[("k", "two"), ("\x00'", "")]⟩, [some "one", some "two", some "", none]) := by
      decide +kernel
    exact congrArg Prod.snd (Except.ok.inj (hm.symm.trans hmemory))
  refine ⟨hterms, c, last, hfresh, hrun, rows, htable, honce, (hkeys _).2 ⟨"", ?_⟩, fun hr => ?_⟩
  · simp [calls]
  · obtain ⟨value, hvalue⟩ := (hkeys "").1 hr
    simp [calls] at hvalue

end CompileSession
