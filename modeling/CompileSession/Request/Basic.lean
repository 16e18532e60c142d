import CompileSession.Json.Record
import CompileSession.Json.Writer

/-!
# Compile requests

A request asks for one source to be compiled, with or without verification and the search for
counterexamples. Requests are numbered from 1, each one higher than the last.
-/

namespace CompileSession

/-- The number of a request. -/
abbrev RequestId := Nat

/-- The number of the first request. -/
def firstRequest : RequestId := 1

/-- What is asked of the compiler beside the compilation. -/
structure Flags where
  verify : Bool
  counterexamples : Bool
deriving DecidableEq, Repr

/-- One source to be compiled. -/
structure Request where
  code : String
  verify : Bool
  counterexamples : Bool
deriving DecidableEq, Repr

/-- The request to compile `code` with `flags`. -/
def Request.of (code : String) (flags : Flags) : Request :=
  ⟨code, flags.verify, flags.counterexamples⟩

/-- The flags of a request. -/
def Request.flags (r : Request) : Flags := ⟨r.verify, r.counterexamples⟩

/-- A request as a JSON value. -/
def Request.toJson (r : Request) : Json :=
  .object [("code", .text r.code), ("verify", .boolean r.verify),
    ("counterexamples", .boolean r.counterexamples)]

/-- The fields of a request document. -/
def Request.shape : Json.Shape :=
  ⟨"CompileRequest", [⟨"code", .text⟩, ⟨"verify", .boolean⟩, ⟨"counterexamples", .boolean⟩]⟩

/-- Reads a request document. -/
def Request.ofText (text : String) : Except Json.Located Request :=
  (Json.readRecord Request.shape text).map fun (code, verify, counterexamples, ()) =>
    ⟨code, verify, counterexamples⟩

/-- The fields of a flags document. -/
def Flags.shape : Json.Shape :=
  ⟨"CompileFlags", [⟨"verify", .boolean⟩, ⟨"counterexamples", .boolean⟩]⟩

/-- Reads a flags document. -/
def Flags.ofText (text : String) : Except Json.Located Flags :=
  (Json.readRecord Flags.shape text).map fun (verify, counterexamples, ()) =>
    ⟨verify, counterexamples⟩

end CompileSession
