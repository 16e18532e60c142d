import CompileSession.Proofs.Json.RecordTexts
import CompileSession.Proofs.Store.Kept
import CompileSession.Request.Basic
import CompileSession.Session.Desk
import CompileSession.Store.Memory

/-!
# The documents that are loaded

A session is loaded from just those texts that spell one: an object in which `code` and `verify`
stand once each, whatever else it holds, or an array of the two contents. So the document of a
request is loaded too. Any other text leaves one warning and no session. Loading gives no store
back, and the desks that load leave their stores as they are.

Results:
1. `Saved.ofText_eq_ok_iff`: the texts that are read as a saved session.
2. `Saved.spells_request`: the document of a request is one of them.
3. `SessionStore.load_exact`: what is loaded from a store, whatever text it holds.
-/

namespace CompileSession

open Json.Grammar (ObjectDocument Once Numeral RawMembers)

namespace Saved

/-- A text spells a saved session: it is an object with white space around its words, in which the
name `code` stands once, with the source for its value, and the name `verify` once, with the flag,
among any other members; or it is an array of these two values. -/
def Spells (text : String) (s : Saved) : Prop :=
  (∃ entries, ObjectDocument text.toList entries ∧ Once "code" (.text s.code) entries ∧
    Once "verify" (.boolean s.verify) entries) ∨
  Json.Grammar.Document Numeral text.toList (.array [.text s.code, .boolean s.verify])

theorem spells_iff {text : String} {s : Saved} :
    Spells text s ↔ Json.SpellsRecord shape text.toList s.row := by
  have hfields (entries : RawMembers) :
      (∀ m ∈ Json.Row.members shape.fields s.row, Once m.1 m.2 entries) ↔
        Once "code" (.text s.code) entries ∧ Once "verify" (.boolean s.verify) entries := by
    show (∀ m ∈ [("code", Json.text s.code), ("verify", Json.boolean s.verify)],
      Once m.1 m.2 entries) ↔ _
    rw [List.forall_mem_cons, List.forall_mem_singleton]
  simp only [Spells, Json.SpellsRecord, hfields]
  rfl

/-- A text is read as a saved session if and only if it spells that session. -/
theorem ofText_eq_ok_iff {text : String} {s : Saved} : ofText text = .ok s ↔ Spells text s := by
  rw [spells_iff, ← Json.readRecord_eq_ok_iff nodup_names]
  unfold ofText
  rw [map_eq_ok_iff]
  constructor
  · rintro ⟨⟨code, verify, ⟨⟩⟩, hread, rfl⟩
    exact hread
  · intro hread
    exact ⟨s.row, hread, rfl⟩

/-- The document of a request spells its source and its flag. -/
theorem spells_request (r : Request) : Spells r.toJson.render ⟨r.code, r.verify⟩ := by
  refine spells_iff.2 (Json.spellsRecord_render ?_ ?_ ?_)
  · exact ⟨trivial, trivial, trivial, trivial⟩
  · show ["code", "verify", "counterexamples"].Nodup
    decide
  · intro m hm
    exact List.mem_append_left [("counterexamples", Json.boolean r.counterexamples)] hm

end Saved

namespace SessionStore

variable {σ : Type} [KeyValue σ] {backend : σ} {text : String}

theorem load_of_spells (h : KeyValue.get backend Saved.key = .ok (some text)) {s : Saved}
    (hs : Saved.Spells text s) : load (some backend) = (some s, []) := by
  unfold load
  simp only [h, Saved.ofText_eq_ok_iff.2 hs]

theorem load_of_not_spells (h : KeyValue.get backend Saved.key = .ok (some text))
    (hnone : ∀ s, ¬ Saved.Spells text s) :
    load (some backend) = (none, [.documentUnreadable]) := by
  cases hread : Saved.ofText text with
  | error e =>
    unfold load
    simp only [h, hread]
  | ok s => exact absurd (Saved.ofText_eq_ok_iff.1 hread) (hnone s)

/-- What is loaded from a store. If it holds a text under the key of the session, a session is
loaded, without a warning, if and only if the text spells it; where the text spells none, none is
loaded and one warning says so. The document of a request is loaded as its source and its flag. If
the store holds nothing under that key, nothing is loaded and there is no warning. Loading at the
start of a desk or at its restart leaves the store as it is. -/
theorem load_exact (backend : σ) :
    (∀ text, KeyValue.get backend Saved.key = .ok (some text) →
      (∀ s, load (some backend) = (some s, []) ↔ Saved.Spells text s) ∧
      ((∀ s, ¬ Saved.Spells text s) → load (some backend) = (none, [.documentUnreadable]))) ∧
    (∀ r : Request, KeyValue.get backend Saved.key = .ok (some r.toJson.render) →
      load (some backend) = (some ⟨r.code, r.verify⟩, [])) ∧
    (KeyValue.get backend Saved.key = .ok none → load (some backend) = (none, [])) ∧
    (∀ pane, (Desk.start pane (some backend)).store = some backend) ∧
    ∀ d : Desk σ, d.store = some backend → d.restart.store = some backend := by
  refine ⟨fun text h => ⟨fun s => ⟨fun hload => ?_, load_of_spells h⟩, load_of_not_spells h⟩,
    fun r h => load_of_spells h (Saved.spells_request r), fun h => ?_,
    fun pane => Desk.start_store pane _, fun d h => d.restart_store.trans h⟩
  · by_cases hspells : ∃ s, Saved.Spells text s
    · obtain ⟨s', hs'⟩ := hspells
      rw [load_of_spells h hs'] at hload
      cases hload
      exact hs'
    · rw [load_of_not_spells h (not_exists.1 hspells)] at hload
      cases hload
  · unfold load
    simp only [h]

end SessionStore

/-- A document with more in it than a saved session: a number of any size, a name of a field further
in, and a surrogate without a partner. The name `code` is spelled with an escape. -/
def richDocument : String :=
  "\x7b\"c\\u006fde\" : \"a\\n\", \"more\": [1e999, \x7b\"code\": \"\\ud800\"\x7d],\n \"verify\":true\x7d"

/-- A document that gives a field twice. -/
def repeatedDocument : String := "\x7b\"code\":\"a\",\"verify\":true,\"code\":\"a\"\x7d"

theorem load_exact_richDocument :
    let rich := Memory.empty.insert Saved.key richDocument
    let repeated := Memory.empty.insert Saved.key repeatedDocument
    KeyValue.get rich Saved.key = .ok (some richDocument) ∧
      Saved.Spells richDocument ⟨"a\n", true⟩ ∧
      KeyValue.get repeated Saved.key = .ok (some repeatedDocument) ∧
      ∀ s, ¬ Saved.Spells repeatedDocument s := by
  intro rich repeated
  have hrich : KeyValue.get rich Saved.key = .ok (some richDocument) := by decide
  have hrepeated : KeyValue.get repeated Saved.key = .ok (some repeatedDocument) := by decide
  refine ⟨hrich, (((SessionStore.load_exact rich).1 _ hrich).1 _).1 (by decide +kernel), hrepeated,
    fun s hs => ?_⟩
  have hload := (((SessionStore.load_exact repeated).1 _ hrepeated).1 s).2 hs
  rw [show SessionStore.load (some repeated) = (none, [.documentUnreadable]) by decide +kernel]
    at hload
  cases hload

end CompileSession
