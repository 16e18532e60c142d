import CompileSession.Response.Wire
import CompileSession.Json.Reader
import CompileSession.Json.Writer

/-!
# Decoding an answer

The member `result` of an answer names what the compilation came to, and with it the member that
holds the payload. A decoded answer brings the warnings about the positions in it; an answer that
is refused brings none.
-/

namespace CompileSession

/-- An answer that was understood, and the warnings about it. -/
structure Decoded where
  outcome : Outcome
  warnings : List Warning
deriving Repr

namespace Decoded

/-- Reads the payload of an answer with the tag `tag`, or `none` if there is no such tag. -/
def payload? (tag : String) (members : Json.Members) : Option (Wire.Reading Decoded) :=
  if tag = "success" then
    some <| (Wire.requiredText "js" (Json.get? "js" members)).map fun js => ⟨.success js, []⟩
  else if tag = "errors" then
    some <|
      match Json.get? "errors" members with
      | none => .error (.mismatch (.missingField "errors"))
      | some v =>
        (Wire.records v).map fun rs => ⟨.errors (Wire.validateAll rs), Wire.warningsAll rs⟩
  else if tag = "exception" then
    some <| (Wire.optionalText (Json.get? "text" members)).map fun t =>
      ⟨.exception (t.getD ""), []⟩
  else none

/-- Decodes an answer that was parsed already. -/
def ofJson : Json → Except ResponseError Decoded
  | .object members =>
    match Json.get? "result" members with
    | none => .error .missingTag
    | some .null => .error .missingTag
    | some (.text tag) =>
      match payload? tag members with
      | none => .error (.unknownTag tag)
      | some r => r.mapError (.malformed tag)
    | some other => .error (.unknownTag other.render)
  | _ => .error .notAnObject

/-- Decodes the text of an answer. -/
def ofText (body : String) : Except ResponseError Decoded :=
  match Json.read body with
  | .error fault => .error (.invalidJson fault)
  | .ok v => ofJson v

end Decoded

end CompileSession
