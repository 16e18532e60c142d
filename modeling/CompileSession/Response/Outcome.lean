import CompileSession.Diagnostic
import CompileSession.Json.Fault

/-!
# What a compilation comes to

The service answers with a program, with a list of diagnostics or with an exception of its own.
Anything else it may send is a `ResponseError`, one constructor for each way in which an answer is
of no use.
-/

namespace CompileSession

/-- What one compilation came to. -/
inductive Outcome where
  | success (artifact : String)
  | errors (diagnostics : List Diagnostic)
  | exception (message : String)
deriving Repr

/-- Why the members of an answer are not what its tag promises. -/
inductive PayloadFault where
  | mismatch (reason : Json.Mismatch)
  /-- a position that is a text but no whole number of 64 bits -/
  | badPosition (text : String)
  /-- a position that is neither a whole number of 64 bits nor a text -/
  | noPosition
deriving DecidableEq, Repr

/-- The text of a payload fault. -/
def PayloadFault.message : PayloadFault → String
  | .mismatch reason => reason.message
  | .badPosition text => "invalid position '" ++ text ++ "'"
  | .noPosition => "data did not match any variant of untagged enum RawPosition"

/-- Why an answer is of no use. -/
inductive ResponseError where
  | invalidJson (fault : Json.Located)
  | notAnObject
  | missingTag
  | unknownTag (tag : String)
  | malformed (tag : String) (fault : PayloadFault)
  | httpStatus (status : Nat) (body : String)
deriving DecidableEq, Repr

/-- The text of a response error. -/
def ResponseError.message : ResponseError → String
  | .invalidJson fault => "invalid JSON response: " ++ fault.message
  | .notAnObject => "response is not a JSON object"
  | .missingTag => "response has no result tag"
  | .unknownTag tag => "unrecognized result tag: " ++ tag
  | .malformed tag fault => "malformed '" ++ tag ++ "' response: " ++ fault.message
  | .httpStatus status body => "server returned HTTP " ++ toString status ++ ": " ++ body

end CompileSession
