import CompileSession.Json.Value
import CompileSession.Number.Shortest
import CompileSession.Text.Octets
import CompileSession.Text.Quoted

/-!
# What can be wrong with a JSON document

`Mismatch` is a well-formed value that is not of the kind asked for, `Problem` is anything that
stops the reading of a text. A `Fault` is a problem together with the part of the text not read
yet; from it and the whole text follows the place that a message names, as a line and a column
counted in octets.
-/

namespace CompileSession.Json

/-- The kind of a value that was found. Of arrays and objects the content is not named. -/
inductive Found where
  | null
  | boolean (value : Bool)
  | number (value : Number)
  | text (value : String)
  | sequence
  | map
deriving DecidableEq, Repr

/-- The kind of a value that was asked for. -/
inductive Wanted where
  | text
  | boolean
  | sequence
  | record (name : String)
deriving DecidableEq, Repr

/-- A well-formed value that is not of the kind asked for. -/
inductive Mismatch where
  /-- a value of another kind -/
  | wrongKind (found : Found) (wanted : Wanted)
  /-- a record without one of its fields -/
  | missingField (name : String)
  /-- a record with a field given twice -/
  | duplicateField (name : String)
  /-- an array in place of a record of `fields` fields, with `count` elements, too few -/
  | tooFew (count : Nat) (record : String) (fields : Nat)
  /-- an array in place of a record, with `count` elements, too many -/
  | tooMany (count : Nat)
deriving DecidableEq, Repr

/-- The kind of a value. -/
def found : Json → Found
  | .null => .null
  | .boolean b => .boolean b
  | .number n => .number n
  | .text s => .text s
  | .array _ => .sequence
  | .object _ => .map

/-- How a found value is named in a message. -/
def Found.message : Found → String
  | .null => "null"
  | .boolean true => "boolean `true`"
  | .boolean false => "boolean `false`"
  | .number (.integer i) => "integer `" ++ toString i ++ "`"
  | .number (.binary x) => "floating point `" ++ x.text ++ "`"
  | .text s => "string " ++ Text.quoted s
  | .sequence => "sequence"
  | .map => "map"

/-- How a kind is named in a message. -/
def Wanted.message : Wanted → String
  | .text => "a string"
  | .boolean => "a boolean"
  | .sequence => "a sequence"
  | .record name => "struct " ++ name

/-- The text of a mismatch. -/
def Mismatch.message : Mismatch → String
  | .wrongKind found wanted =>
    "invalid type: " ++ found.message ++ ", expected " ++ wanted.message
  | .missingField name => "missing field `" ++ name ++ "`"
  | .duplicateField name => "duplicate field `" ++ name ++ "`"
  | .tooFew count record fields =>
    "invalid length " ++ toString count ++ ", expected struct " ++ record ++ " with "
      ++ toString fields ++ (if fields = 1 then " element" else " elements")
  | .tooMany count =>
    "invalid length " ++ toString count ++ ", expected fewer elements in array"

/-- Why a text is refused. -/
inductive Problem where
  | endInValue
  | endInList
  | endInObject
  | endInString
  | noValue
  | misspelt
  | noCommaInList
  | noCommaInObject
  | noColon
  | noKey
  | trailingComma
  | trailingCharacters
  | tooDeep
  | badEscape
  | loneSurrogate
  | brokenPair
  | controlCharacter
  | badNumber
  | numberRange
  /-- the text is well-formed so far, but not of the kind asked for -/
  | mismatch (reason : Mismatch)
deriving DecidableEq, Repr

/-- The text of a problem, without its place. -/
def Problem.message : Problem → String
  | .endInValue => "EOF while parsing a value"
  | .endInList => "EOF while parsing a list"
  | .endInObject => "EOF while parsing an object"
  | .endInString => "EOF while parsing a string"
  | .noValue => "expected value"
  | .misspelt => "expected ident"
  | .noCommaInList => "expected `,` or `]`"
  | .noCommaInObject => "expected `,` or `\x7d`"
  | .noColon => "expected `:`"
  | .noKey => "key must be a string"
  | .trailingComma => "trailing comma"
  | .trailingCharacters => "trailing characters"
  | .tooDeep => "recursion limit exceeded"
  | .badEscape => "invalid escape"
  | .loneSurrogate => "lone leading surrogate in hex escape"
  | .brokenPair => "unexpected end of hex escape"
  | .controlCharacter => "control character (\\u0000-\\u001F) found while parsing a string"
  | .badNumber => "invalid number"
  | .numberRange => "number out of range"
  | .mismatch reason => reason.message

/-- A problem met where `unread` is what is left of the text; the place named lies `ahead` octets
further on, or at the end of the text if that comes first. -/
structure Fault where
  problem : Problem
  unread : List Char
  ahead : Nat

/-- A line and a column, the line counted from 1, the column in octets. -/
structure Place where
  line : Nat
  column : Nat
deriving DecidableEq, Repr

/-- The place `octets` octets further on than `place`, along `text`. -/
def Place.advance (place : Place) : List Char → Nat → Place
  | [], octets => ⟨place.line, place.column + octets⟩
  | c :: rest, octets =>
    if octets < c.utf8Size then ⟨place.line, place.column + octets⟩
    else if c = '\n' then Place.advance ⟨place.line + 1, 0⟩ rest (octets - c.utf8Size)
    else Place.advance ⟨place.line, place.column + c.utf8Size⟩ rest (octets - c.utf8Size)

/-- A problem and the place where it shows. -/
structure Located where
  problem : Problem
  place : Place
deriving DecidableEq, Repr

/-- Finds the place of a fault in the whole text. -/
def Fault.locate (text : List Char) (f : Fault) : Located :=
  let size := Text.octetCount text
  let octets := min size (size - Text.octetCount f.unread + f.ahead)
  ⟨f.problem, Place.advance ⟨1, 0⟩ text octets⟩

/-- The text of a located problem. -/
def Located.message (l : Located) : String :=
  l.problem.message ++ " at line " ++ toString l.place.line ++ " column "
    ++ toString l.place.column

end CompileSession.Json
