import CompileSession.Json.Record
import CompileSession.Json.Writer
import CompileSession.Store.KeyValue
import CompileSession.Warning

/-!
# The saved session

What outlives a session: the source submitted last and whether it was to be verified. It is one
JSON document under one key of a store. Saving and loading never fail; what goes wrong, or the
lack of a store, means that nothing is saved, or nothing was, and leaves a warning.
-/

namespace CompileSession

/-- What outlives a session. -/
structure Saved where
  code : String
  verify : Bool
deriving DecidableEq, Repr

namespace Saved

/-- The key of the document. -/
def key : String := "whileylabs"

/-- The saved session as a JSON value. -/
def toJson (s : Saved) : Json := .object [("code", .text s.code), ("verify", .boolean s.verify)]

/-- The document of a saved session. -/
def document (s : Saved) : String := s.toJson.render

/-- The fields of the document. -/
def shape : Json.Shape := ⟨"SessionState", [⟨"code", .text⟩, ⟨"verify", .boolean⟩]⟩

/-- Reads the document of a saved session. -/
def ofText (text : String) : Except Json.Located Saved :=
  (Json.readRecord shape text).map fun (code, verify, ()) => ⟨code, verify⟩

end Saved

/-- A store for the session, if there is one at all. -/
abbrev SessionStore (σ : Type) := Option σ

namespace SessionStore

variable {σ : Type} [KeyValue σ]

/-- The store after saving, and the warnings about it. -/
def save (store : SessionStore σ) (s : Saved) : SessionStore σ × List Warning :=
  match store with
  | none => (none, [])
  | some backend =>
    match KeyValue.set backend Saved.key s.document with
    | .ok backend => (some backend, [])
    | .error _ => (some backend, [.saveFailed])

/-- The session saved last, and the warnings about it. -/
def load (store : SessionStore σ) : Option Saved × List Warning :=
  match store with
  | none => (none, [])
  | some backend =>
    match KeyValue.get backend Saved.key with
    | .error _ => (none, [.readFailed])
    | .ok none => (none, [])
    | .ok (some document) =>
      match Saved.ofText document with
      | .ok s => (some s, [])
      | .error _ => (none, [.documentUnreadable])

/-- The document under the key of the session, as it is. -/
def raw (store : SessionStore σ) : Except StoreError (Option String) :=
  match store with
  | none => .ok none
  | some backend => KeyValue.get backend Saved.key

end SessionStore

end CompileSession
