/-!
# Key/value stores

A store keeps a text under each key that was set. Either operation may fail; a `set` that fails
leaves the store as it was, so it gives no new one. `LawfulKeyValue` is what a store promises that
never fails: a key holds what was set last, and setting one key leaves every other alone.
-/

namespace CompileSession

/-- Why a store failed. -/
inductive StoreError where
  | engine (message : String)
  | migration (message : String)
deriving DecidableEq, Repr

/-- The text of a store error. -/
def StoreError.message : StoreError → String
  | .engine message => "sqlite error: " ++ message
  | .migration message => "migration error: " ++ message

/-- The operations of a store with states `σ`. -/
class KeyValue (σ : Type) where
  /-- The text under a key, if it was ever set. -/
  get : σ → String → Except StoreError (Option String)
  /-- The store after a text was put under a key. -/
  set : σ → String → String → Except StoreError σ

/-- A store that never fails and returns what was set last. -/
class LawfulKeyValue (σ : Type) [KeyValue σ] : Prop where
  /-- Reading never fails. -/
  get_ok (s : σ) (key : String) : ∃ v, KeyValue.get s key = .ok v
  /-- Writing never fails; the key then holds the text, and every other key what it held. -/
  set_ok (s : σ) (key value : String) :
    ∃ s', KeyValue.set s key value = .ok s' ∧ KeyValue.get s' key = .ok (some value) ∧
      ∀ other, other ≠ key → KeyValue.get s' other = KeyValue.get s other

end CompileSession
