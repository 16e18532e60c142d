import CompileSession.Proofs.Json.Rendering
import CompileSession.Proofs.Session.Dispatch

/-!
# Saving and loading again

A session that was saved is loaded again, exactly. A backend may refuse a document, and then keeps
what it had; whatever it refuses, what is loaded is the session saved last among those it took, or
what was loaded at the start if it took none. A store in memory refuses nothing, and neither does a
database that can be written and has its table.

`saveAmid` saves some sessions, one after the other, to a backend that may turn into another one
before each save, so that it refuses one document and takes the next.

Results:
1. `Kept.saveAmid` and `Kept.saveAll`: what a backend keeps through any saves.
2. `Kept.readsBack`: the session that it keeps is read back.
3. `saved_is_loaded`: both, for each kind of store.
-/

namespace CompileSession

/-! ## Stores that keep what they take -/

/-- A store that may refuse to be written. What it takes stands under its key, and nothing changes
under any other. -/
class KeepsWrites (σ : Type) [KeyValue σ] : Prop where
  get_set {s s' : σ} {key value : String} : KeyValue.set s key value = .ok s' →
    KeyValue.get s' key = .ok (some value)
  get_set_of_ne {s s' : σ} {key value other : String} : KeyValue.set s key value = .ok s' →
    other ≠ key → KeyValue.get s' other = KeyValue.get s other

instance (σ : Type) [KeyValue σ] [LawfulKeyValue σ] : KeepsWrites σ where
  get_set {s s' key value} h := by
    obtain ⟨kept, hset, hget, -⟩ := LawfulKeyValue.set_ok s key value
    obtain rfl := Except.ok.inj (hset.symm.trans h)
    exact hget
  get_set_of_ne {s s' key value other} h hne := by
    obtain ⟨kept, hset, -, hothers⟩ := LawfulKeyValue.set_ok s key value
    obtain rfl := Except.ok.inj (hset.symm.trans h)
    exact hothers other hne

theorem Database.set_eq_ok_iff {d d' : Database} {key value : String} :
    KeyValue.set d key value = .ok d' ↔ ∃ rows, d.table = some rows ∧
      d' = { d with table := some (upsert key value rows) } := by
  simp only [KeyValue.set]
  cases d.table with
  | none => exact ⟨nofun, nofun⟩
  | some rows =>
    constructor
    · intro h
      cases h
      exact ⟨rows, rfl, rfl⟩
    · rintro ⟨_, ⟨⟩, rfl⟩
      rfl

instance : KeepsWrites Database where
  get_set h := by
    obtain ⟨rows, -, rfl⟩ := Database.set_eq_ok_iff.1 h
    show Except.ok (Database.find? _ (Database.upsert _ _ rows)) = _
    rw [Database.find?_upsert, if_pos rfl]
  get_set_of_ne {s s' key value other} h hne := by
    obtain ⟨rows, htable, rfl⟩ := Database.set_eq_ok_iff.1 h
    obtain ⟨version, table⟩ := s
    obtain rfl : table = some rows := htable
    show Except.ok (Database.find? _ (Database.upsert _ _ rows)) = .ok (Database.find? _ rows)
    rw [Database.find?_upsert, if_neg hne]

/-- A connection takes what its database takes, unless a fault keeps it from being written. -/
theorem Connection.set_eq_ok_iff {c c' : Connection} {key value : String} :
    KeyValue.set c key value = .ok c' ↔ c.fault = none ∧
      ∃ d, KeyValue.set c.content key value = .ok d ∧ c' = { c with content := d } := by
  obtain ⟨⟨version, table⟩, journal, fault⟩ := c
  cases table with
  | none =>
    constructor
    · intro h
      cases fault <;> cases h
    · rintro ⟨-, d, hd, -⟩
      cases hd
  | some rows =>
    cases fault with
    | some f => exact ⟨nofun, nofun⟩
    | none =>
      constructor
      · intro h
        cases h
        exact ⟨rfl, _, rfl, rfl⟩
      · rintro ⟨-, d, hd, rfl⟩
        cases hd
        rfl

instance : KeepsWrites Connection where
  get_set {s s' key value} h := by
    obtain ⟨-, d, hd, rfl⟩ := Connection.set_eq_ok_iff.1 h
    show KeyValue.get d key = _
    exact KeepsWrites.get_set hd
  get_set_of_ne {s s' key value other} h hne := by
    obtain ⟨-, d, hd, rfl⟩ := Connection.set_eq_ok_iff.1 h
    show KeyValue.get d other = KeyValue.get s.content other
    exact KeepsWrites.get_set_of_ne hd hne

/-! ## Many saves -/

namespace SessionStore

variable {σ : Type} [KeyValue σ]

/-- The store after sessions were saved, one after the other. -/
def saveAll (store : SessionStore σ) (saves : List Saved) : SessionStore σ :=
  saves.foldl (fun store s => (store.save s).1) store

/-- Whether the document of a session is taken. -/
def takes (store : SessionStore σ) (s : Saved) : Bool :=
  match store with
  | none => false
  | some backend => (KeyValue.set backend Saved.key s.document).isOk

theorem takes_of_set {backend kept : σ} {s : Saved}
    (h : KeyValue.set backend Saved.key s.document = .ok kept) : takes (some backend) s = true := by
  simp [takes, h, Except.isOk, Except.toBool]

/-- Saves a session to a store whose backend turned into another one, and counts it among those that
were taken if it is. -/
def saveChanged (change : σ → σ) (state : SessionStore σ × List Saved) (s : Saved) :
    SessionStore σ × List Saved :=
  let changed : SessionStore σ := state.1.map change
  ((save changed s).1, if takes changed s then state.2 ++ [s] else state.2)

/-- The store after sessions were saved, one after the other, and those whose document it took:
before the save that `n` others precede, its backend turns into what `change n` makes of it. -/
def saveAmid (change : Nat → σ → σ) (store : SessionStore σ) (saves : List Saved) :
    SessionStore σ × List Saved :=
  saves.zipIdx.foldl (fun state (s, n) => saveChanged (change n) state s) (store, [])

theorem saveAmid_snoc (change : Nat → σ → σ) (store : SessionStore σ) (past : List Saved)
    (s : Saved) :
    saveAmid change store (past ++ [s]) =
      saveChanged (change past.length) (saveAmid change store past) s := by
  simp [saveAmid, List.zipIdx_append]

theorem saveAll_snoc (store : SessionStore σ) (past : List Saved) (s : Saved) :
    saveAll store (past ++ [s]) = (save (saveAll store past) s).1 := by
  simp [saveAll]

theorem load_congr {backend kept : σ}
    (h : KeyValue.get kept Saved.key = KeyValue.get backend Saved.key) :
    load (some kept) = load (some backend) := by
  unfold load
  simp only [h]

end SessionStore

/-! ## What a backend keeps -/

section
variable {σ : Type} [KeyValue σ]

/-- A backend holds the document of the session saved last, or what it held at the start if none
was, and under every other key what it held. -/
structure Kept (backend kept : σ) (last : Option Saved) : Prop where
  own : KeyValue.get kept Saved.key =
    match last with
    | none => KeyValue.get backend Saved.key
    | some s => .ok (some s.document)
  others : ∀ key, key ≠ Saved.key → KeyValue.get kept key = KeyValue.get backend key

namespace Kept

variable {backend kept : σ} {last : Option Saved}

theorem refl (backend : σ) : Kept backend backend none := ⟨rfl, fun _ _ => rfl⟩

/-- What reads alike keeps alike. -/
theorem congr (h : Kept backend kept last) {other : σ}
    (halike : ∀ key, KeyValue.get other key = KeyValue.get kept key) : Kept backend other last where
  own := (halike Saved.key).trans h.own
  others key hne := (halike key).trans (h.others key hne)

theorem set [KeepsWrites σ] (h : Kept backend kept last) {s : Saved} {next : σ}
    (hset : KeyValue.set kept Saved.key s.document = .ok next) : Kept backend next (some s) where
  own := KeepsWrites.get_set hset
  others key hne := (KeepsWrites.get_set_of_ne hset hne).trans (h.others key hne)

/-- A save keeps the session if its document is taken, and changes nothing if not. -/
theorem save [KeepsWrites σ] (h : Kept backend kept last) (s : Saved) :
    ∃ next, (SessionStore.save (some kept) s).1 = some next ∧
      Kept backend next (if SessionStore.takes (some kept) s then some s else last) := by
  cases hset : KeyValue.set kept Saved.key s.document with
  | error e =>
    have htakes : SessionStore.takes (some kept) s = false := by
      simp [SessionStore.takes, hset, Except.isOk, Except.toBool]
    refine ⟨kept, by simp only [SessionStore.save, hset], ?_⟩
    rw [htakes]
    exact h
  | ok next =>
    rw [SessionStore.takes_of_set hset, if_pos rfl, SessionStore.save_of_set hset]
    exact ⟨next, rfl, h.set hset⟩

/-- Through any saves a backend keeps the last session that it took. -/
theorem saveAmid [KeepsWrites σ] (change : Nat → σ → σ)
    (hchange : ∀ n backend key, KeyValue.get (change n backend) key = KeyValue.get backend key)
    (backend : σ) (saves : List Saved) :
    ∃ kept, (SessionStore.saveAmid change (some backend) saves).1 = some kept ∧
      Kept backend kept (SessionStore.saveAmid change (some backend) saves).2.getLast? := by
  induction saves using List.reverseRecOn with
  | nil => exact ⟨backend, rfl, .refl backend⟩
  | append_singleton past s ih =>
    obtain ⟨kept, hkept, h⟩ := ih
    obtain ⟨next, hnext, hlast⟩ := (h.congr (hchange past.length kept)).save s
    rw [SessionStore.saveAmid_snoc, SessionStore.saveChanged, hkept]
    refine ⟨next, hnext, ?_⟩
    by_cases htakes : SessionStore.takes (some (change past.length kept)) s
    · rw [if_pos htakes] at hlast
      simpa [htakes] using hlast
    · rw [if_neg htakes] at hlast
      simpa [htakes] using hlast

/-- A backend that refuses nothing keeps the session saved last. -/
theorem saveAll [KeepsWrites σ] (good : σ → Prop)
    (hgood : ∀ backend key value, good backend →
      ∃ kept, KeyValue.set backend key value = .ok kept ∧ good kept)
    {backend : σ} (h : good backend) (saves : List Saved) :
    ∃ kept, SessionStore.saveAll (some backend) saves = some kept ∧ good kept ∧
      Kept backend kept saves.getLast? := by
  induction saves using List.reverseRecOn with
  | nil => exact ⟨backend, rfl, h, .refl backend⟩
  | append_singleton past s ih =>
    obtain ⟨kept, hkept, hgoodkept, hlast⟩ := ih
    obtain ⟨next, hset, hnext⟩ := hgood kept Saved.key s.document hgoodkept
    refine ⟨next, ?_, hnext, ?_⟩
    · rw [SessionStore.saveAll_snoc, hkept, SessionStore.save_of_set hset]
    · rw [List.getLast?_concat]
      exact hlast.set hset

end Kept

/-- A session is read back: it is loaded without a warning, its document is one JSON object of just
the two members `code` and `verify`, and every other key holds what it held. -/
structure ReadsBack (backend kept : σ) (s : Saved) : Prop where
  loaded : SessionStore.load (some kept) = (some s, [])
  document : ∃ text, KeyValue.get kept Saved.key = .ok (some text) ∧
    Json.Grammar.Document Json.Grammar.Plain text.toList
      (.object [("code", .text s.code), ("verify", .boolean s.verify)]) ∧
    Json.read text = .ok (.object [("code", .text s.code), ("verify", .boolean s.verify)])
  others : ∀ key, key ≠ Saved.key → KeyValue.get kept key = KeyValue.get backend key

theorem Saved.canonical_toJson (s : Saved) : s.toJson.Canonical := by
  have hnames : "code" < "verify" := by decide
  exact ⟨List.pairwise_pair.2 hnames, trivial, trivial, trivial⟩

theorem Saved.read_document (s : Saved) : Json.read s.document = .ok s.toJson := by
  have hdepth : s.toJson.depth ≤ Json.maxDepth := show 1 ≤ 127 by decide
  rw [Json.read, document, Json.readChars_render s.canonical_toJson hdepth]
  rfl

theorem Kept.readsBack {backend kept : σ} {s : Saved} (h : Kept backend kept (some s)) :
    ReadsBack backend kept s where
  loaded := SessionStore.load_of_get h.own
  document := ⟨_, h.own, Json.document_render s.canonical_toJson, s.read_document⟩
  others := h.others

/-- A backend that refuses nothing reads back the session saved last. -/
theorem readsBack_of_good [KeepsWrites σ] (good : σ → Prop)
    (hgood : ∀ backend key value, good backend →
      ∃ kept, KeyValue.set backend key value = .ok kept ∧ good kept)
    {backend : σ} (h : good backend) (saves : List Saved) (s : Saved) :
    ∃ kept, SessionStore.saveAll (some backend) (saves ++ [s]) = some kept ∧ good kept ∧
      ReadsBack backend kept s := by
  obtain ⟨kept, hkept, hgoodkept, hlast⟩ := Kept.saveAll good hgood h (saves ++ [s])
  rw [List.getLast?_concat] at hlast
  exact ⟨kept, hkept, hgoodkept, hlast.readsBack⟩

end

/-! ## Databases that can be written -/

namespace Connection

/-- A connection to a database of the newest version that can be written and has its table. -/
structure Writable (c : Connection) : Prop where
  version : c.content.version = Database.newestVersion
  table : ∃ rows, c.content.table = some rows
  fault : c.fault = none

theorem Writable.set {c : Connection} (h : c.Writable) (key value : String) :
    ∃ c', KeyValue.set c key value = .ok c' ∧ c'.Writable := by
  obtain ⟨rows, htable⟩ := h.table
  refine ⟨{ c with content := { c.content with table := some (Database.upsert key value rows) } },
    ?_, h.version, ⟨_, rfl⟩, h.fault⟩
  exact set_eq_ok_iff.2 ⟨h.fault, _, Database.set_eq_ok_iff.2 ⟨rows, htable, rfl⟩, rfl⟩

/-- A connection that was opened and can be written is in order, unless its database was marked as
one of the newest version without having its table. -/
theorem writable_of_migrate {c c' : Connection} (h : c.migrate = .ok c') (hfault : c'.fault = none)
    (hcontent : c.content ≠ ⟨Database.newestVersion, none⟩) : c'.Writable := by
  have hmigrate := content_of_migrate h hfault
  refine ⟨Database.version_of_migrate hmigrate, ?_, hfault⟩
  unfold Database.migrate at hmigrate
  split at hmigrate
  · rw [← Except.ok.inj hmigrate]
    exact ⟨_, rfl⟩
  split at hmigrate
  · rename_i hversion
    rw [← Except.ok.inj hmigrate]
    refine Option.ne_none_iff_exists'.1 fun htable => hcontent ?_
    rw [← hversion, ← htable]
  · cases hmigrate

/-- A connection that was closed and is opened again has what it kept. -/
theorem content_of_connect {c c' : Connection} (h : c.content.version = Database.newestVersion)
    {t : Terms} (hconnect : (Medium.database c.content c.journal).connect t = .ok c') :
    c'.content = c.content := by
  obtain ⟨content, journal, kept, hcontent, -, hmigrate⟩ := Medium.connect_eq_ok_iff.1 hconnect
  cases hcontent
  have hsame : c.content.migrate = .ok c.content := by
    unfold Database.migrate
    rw [h]
    rfl
  unfold migrate at hmigrate
  rw [hsame] at hmigrate
  cases hfault : t.fault with
  | none =>
    rw [hfault] at hmigrate
    cases hmigrate
    rfl
  | some f =>
    rw [hfault] at hmigrate
    simp only [if_true] at hmigrate
    cases hmigrate
    rfl

theorem get_of_connect {c c' : Connection} (h : c.content.version = Database.newestVersion)
    {t : Terms} (hconnect : (Medium.database c.content c.journal).connect t = .ok c')
    (key : String) : KeyValue.get c' key = KeyValue.get c key := by
  show KeyValue.get c'.content key = KeyValue.get c.content key
  rw [content_of_connect h hconnect]

theorem writable_of_connect {m : Medium} {t : Terms} {c : Connection} (h : m.connect t = .ok c)
    (hfault : c.fault = none)
    (hmarked : ∀ journal, m ≠ .database ⟨Database.newestVersion, none⟩ journal) : c.Writable := by
  obtain ⟨content, journal, kept, hcontent, -, hmigrate⟩ := Medium.connect_eq_ok_iff.1 h
  refine writable_of_migrate hmigrate hfault fun heq => ?_
  cases m with
  | blank =>
    cases hcontent
    cases heq
  | database found kept =>
    cases hcontent
    exact hmarked journal (congrArg (Medium.database · journal) heq)
  | foreign fault => cases hcontent

theorem writable_of_unkept {journal : Journal} {fault : Option WriteFault} {c : Connection}
    (h : unkept journal fault = .ok c) : c.Writable := by
  refine writable_of_migrate h ?_ nofun
  cases fault with
  | none =>
    cases h
    rfl
  | some f => cases h

end Connection

/-- Saving and then loading gives the session back, whatever its source is, whatever the store held
and whatever was saved before: from a store in memory; from a database in a file, once it was opened
and can be written, and again from the same file opened anew; and from a database kept nowhere. Only
a file that is marked as a database of the newest version and has no table is left out. The document
is one object of just two members, and the other keys hold what they held. Where a backend refuses
some documents and keeps what it had, the session loaded is the last one of those taken; if none
was, what is loaded and all that is kept is as at the start. -/
theorem saved_is_loaded :
    (∀ (m : Memory) (saves : List Saved) (s : Saved),
      ∃ kept, SessionStore.saveAll (some m) (saves ++ [s]) = some kept ∧ ReadsBack m kept s) ∧
    (∀ (m : Medium) (t : Terms) (c : Connection), m.connect t = .ok c → c.fault = none →
      (∀ journal, m ≠ .database ⟨Database.newestVersion, none⟩ journal) →
      ∀ (saves : List Saved) (s : Saved),
        ∃ kept, SessionStore.saveAll (some c) (saves ++ [s]) = some kept ∧ ReadsBack c kept s ∧
          ∀ (t' : Terms) (c' : Connection),
            (Medium.database kept.content kept.journal).connect t' = .ok c' →
              SessionStore.load (some c') = (some s, [])) ∧
    (∀ (journal : Journal) (fault : Option WriteFault) (c : Connection),
      Connection.unkept journal fault = .ok c → ∀ (saves : List Saved) (s : Saved),
        ∃ kept, SessionStore.saveAll (some c) (saves ++ [s]) = some kept ∧ ReadsBack c kept s) ∧
    ∀ (σ : Type) [KeyValue σ] [KeepsWrites σ] (change : Nat → σ → σ),
      (∀ n backend key, KeyValue.get (change n backend) key = KeyValue.get backend key) →
      ∀ (backend : σ) (saves : List Saved),
        ∃ kept, (SessionStore.saveAmid change (some backend) saves).1 = some kept ∧
          match (SessionStore.saveAmid change (some backend) saves).2.getLast? with
          | some s => ReadsBack backend kept s
          | none => SessionStore.load (some kept) = SessionStore.load (some backend) ∧
              ∀ key, KeyValue.get kept key = KeyValue.get backend key := by
  refine ⟨fun m saves s => ?_, fun m t c hconnect hfault hmarked saves s => ?_,
    fun journal fault c hopen saves s => ?_, fun σ _ _ change hchange backend saves => ?_⟩
  · have hset (m : Memory) (key value : String) (_ : True) :
        ∃ kept, KeyValue.set m key value = .ok kept ∧ True := ⟨m.insert key value, rfl, trivial⟩
    obtain ⟨kept, hkept, -, hs⟩ := readsBack_of_good (fun _ => True) hset trivial saves s
    exact ⟨kept, hkept, hs⟩
  · have hwritable := Connection.writable_of_connect hconnect hfault hmarked
    obtain ⟨kept, hkept, hgood, hs⟩ := readsBack_of_good Connection.Writable
      (fun _ key value h => h.set key value) hwritable saves s
    refine ⟨kept, hkept, hs, fun t' c' hagain => ?_⟩
    have hget := Connection.get_of_connect hgood.version hagain Saved.key
    rw [SessionStore.load_congr hget, hs.loaded]
  · have hwritable := Connection.writable_of_unkept hopen
    obtain ⟨kept, hkept, -, hs⟩ := readsBack_of_good Connection.Writable
      (fun _ key value h => h.set key value) hwritable saves s
    exact ⟨kept, hkept, hs⟩
  · obtain ⟨kept, hkept, h⟩ := Kept.saveAmid change hchange backend saves
    refine ⟨kept, hkept, ?_⟩
    cases hlast : (SessionStore.saveAmid change (some backend) saves).2.getLast? with
    | some s =>
      rw [hlast] at h
      exact h.readsBack
    | none =>
      rw [hlast] at h
      refine ⟨SessionStore.load_congr h.own, fun key => ?_⟩
      by_cases hkey : key = Saved.key
      · rw [hkey, h.own]
      · exact h.others key hkey

/-- Lets a connection be written before every other save only. -/
def everySecond (n : Nat) (c : Connection) : Connection :=
  { c with fault := if n % 2 = 0 then some .lost else none }

theorem saved_is_loaded_everySecond :
    let c : Connection := ⟨⟨1, some [⟨"theme", "dark"⟩]⟩, .memory, none⟩
    let saves : List Saved := [⟨"a", true⟩, ⟨"\"\\\x00", false⟩, ⟨"b", true⟩]
    let after := SessionStore.saveAmid everySecond (some c) saves
    (∀ n backend key,
      KeyValue.get (everySecond n backend) key = KeyValue.get backend key) ∧
      after.2.getLast? = some ⟨"\"\\\x00", false⟩ ∧ ∃ kept, after.1 = some kept ∧
        SessionStore.load (some kept) = (some ⟨"\"\\\x00", false⟩, []) ∧
        KeyValue.get kept "theme" = .ok (some "dark") := by
  intro c saves after
  have hchange : ∀ n backend key,
      KeyValue.get (everySecond n backend) key = KeyValue.get backend key := fun _ _ _ => rfl
  have hlast : after.2.getLast? = some ⟨"\"\\\x00", false⟩ := by decide +kernel
  obtain ⟨kept, hkept, h⟩ := saved_is_loaded.2.2.2 Connection everySecond hchange c saves
  rw [show SessionStore.saveAmid everySecond (some c) saves = after from rfl, hlast] at h
  have hother : "theme" ≠ Saved.key := by decide
  exact ⟨hchange, hlast, kept, hkept, h.loaded, h.others "theme" hother⟩

end CompileSession
