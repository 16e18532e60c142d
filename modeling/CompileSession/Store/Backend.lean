import CompileSession.Store.Database
import CompileSession.Store.Memory

/-!
# Backends that may fail

`Backend` is one of the two stores; `Flaky` puts a fault of its own in front of the reads or the
writes of another store.
-/

namespace CompileSession

/-- One of the two stores. -/
inductive Backend where
  | memory (store : Memory)
  | database (store : Database)
deriving DecidableEq, Repr

instance : KeyValue Backend where
  get
    | .memory m, key => KeyValue.get m key
    | .database d, key => KeyValue.get d key
  set
    | .memory m, key, value => (KeyValue.set m key value).map .memory
    | .database d, key, value => (KeyValue.set d key value).map .database

/-- A store whose reads and writes fail with the given faults, if there are any. -/
structure Flaky (σ : Type) where
  inner : σ
  getFault : Option StoreError
  setFault : Option StoreError
deriving DecidableEq, Repr

instance {σ : Type} [KeyValue σ] : KeyValue (Flaky σ) where
  get s key :=
    match s.getFault with
    | some e => .error e
    | none => KeyValue.get s.inner key
  set s key value :=
    match s.setFault with
    | some e => .error e
    | none => (KeyValue.set s.inner key value).map fun inner => { s with inner := inner }

end CompileSession
