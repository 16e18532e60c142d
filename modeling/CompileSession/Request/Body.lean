import CompileSession.Request.Basic
import CompileSession.Text.Blank
import CompileSession.Text.Percent
import CompileSession.Text.Pieces

/-!
# Request bodies

A request travels as a form or as a JSON document; either carries the same three fields in the
same order. In a form a blank is a plus sign, the letters, digits and four marks stand for
themselves, and every other octet of the UTF-8 form is a percent sign with two hexadecimal digits.
`Form.read` is the reading of a form: pairs between ampersands, split at their first equals sign.
-/

namespace CompileSession

/-- How a request travels. -/
inductive Encoding where
  | form
  | json
deriving DecidableEq, Repr

namespace Encoding

/-- The name of an encoding. -/
def name : Encoding → String
  | .form => "form"
  | .json => "json"

/-- The media type of a body. -/
def contentType : Encoding → String
  | .form => "application/x-www-form-urlencoded"
  | .json => "application/json"

/-- `s` without blanks at its ends and with small ASCII letters, as names of encodings are
compared. -/
def normalized (s : String) : String :=
  String.ofList ((Text.trim s.toList).map Char.toLower)

/-- The encoding that `s` names. -/
def ofName? (s : String) : Option Encoding :=
  if normalized s = "form" then some .form
  else if normalized s = "json" then some .json
  else none

/-- The text of the error that `s` names no encoding. -/
def unknownMessage (s : String) : String :=
  "invalid request encoding '" ++ normalized s ++ "', expected form or json"

end Encoding

namespace Form

/-- Whether `c` stands for itself in a form. -/
def isPlain (c : Char) : Bool :=
  ('A' ≤ c && c ≤ 'Z') || ('a' ≤ c && c ≤ 'z') || ('0' ≤ c && c ≤ '9')
    || c == '*' || c == '-' || c == '.' || c == '_'

/-- How `c` is written in a form. -/
def escapeChar (c : Char) : List Char :=
  if c = ' ' then ['+']
  else if isPlain c then [c]
  else Text.Percent.encodeChar c

/-- How a name or a value is written in a form. -/
def escape (s : String) : List Char := s.toList.flatMap escapeChar

/-- One field of a form. -/
def renderPair (pair : String × String) : List Char := escape pair.1 ++ '=' :: escape pair.2

/-- The fields of a form, with ampersands between them. -/
def renderPairs : List (String × String) → List Char
  | [] => []
  | [pair] => renderPair pair
  | pair :: pairs => renderPair pair ++ '&' :: renderPairs pairs

/-- The text that a name or a value stands for: a plus sign is a blank, and percent signs are
read. -/
def unescape (cs : List Char) : String :=
  Text.decodeLossy (Text.Percent.decode (cs.map fun c => if c = '+' then ' ' else c))

/-- The name and value of a field. -/
def readPair (cs : List Char) : String × String :=
  (unescape (cs.takeWhile (· != '=')), unescape ((cs.dropWhile (· != '=')).drop 1))

/-- The fields of a form. -/
def read (body : String) : List (String × String) :=
  ((Text.pieces '&' body.toList).filter (!·.isEmpty)).map readPair

end Form

namespace Request

/-- A flag as the value of a form field. -/
def flagText (b : Bool) : String := if b then "true" else "false"

/-- The fields of the form that carries a request. -/
def formFields (r : Request) : List (String × String) :=
  [("code", r.code), ("verify", flagText r.verify),
    ("counterexamples", flagText r.counterexamples)]

/-- The body that carries a request. -/
def body (encoding : Encoding) (r : Request) : String :=
  match encoding with
  | .form => String.ofList (Form.renderPairs r.formFields)
  | .json => r.toJson.render

end Request

end CompileSession
