import CompileSession.Store.Entries
import CompileSession.Store.KeyValue

/-!
# The store in memory

A list of entries, at most one for each key. Main statement: the store is lawful, that is, it never
fails and a key holds what was set last.
-/

namespace CompileSession

/-- A store in memory. -/
structure Memory where
  entries : List (String × String)
deriving DecidableEq, Repr

namespace Memory

/-- The store without entries. -/
def empty : Memory := ⟨[]⟩

/-- The text under `key`. -/
def get? (m : Memory) (key : String) : Option String := m.entries.lookup key

/-- The store after `value` was put under `key`. -/
def insert (m : Memory) (key value : String) : Memory := ⟨Entries.put key value m.entries⟩

/-- The number of keys. -/
def size (m : Memory) : Nat := m.entries.length

/-- Whether no key was set. -/
def isEmpty (m : Memory) : Bool := m.entries.isEmpty

instance : KeyValue Memory where
  get m key := .ok (m.get? key)
  set m key value := .ok (m.insert key value)

theorem get?_insert (m : Memory) (key value other : String) :
    (m.insert key value).get? other = if other = key then some value else m.get? other :=
  Entries.lookup_put key value m.entries other

instance : LawfulKeyValue Memory where
  get_ok m key := ⟨m.get? key, rfl⟩
  set_ok m key value := by
    refine ⟨m.insert key value, rfl, ?_, fun other h => ?_⟩
    · simp [KeyValue.get, get?_insert]
    · simp [KeyValue.get, get?_insert, h]

end Memory

end CompileSession
