import CompileSession.Json.Reader
import CompileSession.Json.Pass

/-!
# Reading a record from a text

A record is read straight from a text, as an object with its fields in any order among other
members, or as an array of its fields in the order declared. The first thing wrong along the text
is reported: a field is checked as it is met, a field given twice at its second name, and a missing
field only at the end of the object. Members that are no fields are passed over.
-/

namespace CompileSession.Json

/-- The kind of a field. -/
inductive Kind where
  | text
  | boolean
deriving DecidableEq, Repr

/-- What a field of a kind holds. -/
def Kind.Content : Kind → Type
  | .text => String
  | .boolean => Bool

/-- The kind that is asked for in a field. -/
def Kind.wanted : Kind → Wanted
  | .text => .text
  | .boolean => .boolean

/-- A field of a record. -/
structure Field where
  name : String
  kind : Kind
deriving DecidableEq, Repr

/-- What a record is called and its fields, in the order declared. -/
structure Shape where
  name : String
  fields : List Field
deriving DecidableEq, Repr

/-- The contents of all fields. -/
def Row : List Field → Type
  | [] => Unit
  | f :: fields => f.kind.Content × Row fields

/-- The contents of the fields met so far. -/
def Slots : List Field → Type
  | [] => Unit
  | f :: fields => Option f.kind.Content × Slots fields

/-- No field was met. -/
def Slots.empty : (fields : List Field) → Slots fields
  | [] => ()
  | _ :: fields => (none, Slots.empty fields)

/-- The contents of all fields, or the first field missing. -/
def Slots.complete : (fields : List Field) → Slots fields → Except Mismatch (Row fields)
  | [], () => .ok ()
  | f :: _, (none, _) => .error (.missingField f.name)
  | _ :: fields, (some c, slots) => (Slots.complete fields slots).map fun row => (c, row)

/-- Refuses a value that is not of the kind wanted. A scalar is read to its end first, and what is
wrong with it comes before its kind; of an array or object only the bracket is looked at. -/
def wrongKind {α : Type} (wanted : Wanted) (s : List Char) : Except Fault α :=
  let stop (found : Found) (rest : List Char) : Except Fault α :=
    Scan.refusePassed (.mismatch (.wrongKind found wanted)) rest
  match s with
  | [] => Scan.refuse .endInValue []
  | c :: s =>
    if c = 'n' then (Scan.word "ull".toList s).bind fun rest => stop .null rest
    else if c = 't' then (Scan.word "rue".toList s).bind fun rest => stop (.boolean true) rest
    else if c = 'f' then (Scan.word "alse".toList s).bind fun rest => stop (.boolean false) rest
    else if c = '-' then (Scan.number true s).bind fun (n, rest) => stop (.number n) rest
    else if Text.isDigit c then
      (Scan.number false (c :: s)).bind fun (n, rest) => stop (.number n) rest
    else if c = '"' then (Scan.string s).bind fun (t, rest) => stop (.text t) rest
    else if c = '[' then stop .sequence (c :: s)
    else if c = '{' then stop .map (c :: s)
    else Scan.refuse .noValue (c :: s)

/-- Reads the content of a field. -/
def readContent (kind : Kind) (s : List Char) : Scan kind.Content :=
  match Scan.skipSpace s with
  | [] => Scan.refuse .endInValue []
  | c :: s =>
    match kind with
    | .text => if c = '"' then Scan.string s else wrongKind Wanted.text (c :: s)
    | .boolean =>
      if c = 't' then (Scan.word "rue".toList s).map fun s => (true, s)
      else if c = 'f' then (Scan.word "alse".toList s).map fun s => (false, s)
      else wrongKind Wanted.boolean (c :: s)

/-! ## Fields in order -/

/-- Reads the fields of an array from the one after the first `count`, up to the last. -/
def readInOrder (shape : Shape) (count : Nat) (s : List Char) :
    (fields : List Field) → Scan (Row fields)
  | [] => .ok ((), s)
  | f :: fields =>
    let next (s : List Char) : Scan (Row (f :: fields)) :=
      match readContent f.kind s with
      | .error e => .error e
      | .ok (c, s) => (readInOrder shape (count + 1) s fields).map fun (row, s) => ((c, row), s)
    match Scan.skipSpace s with
    | [] => Scan.refuse .endInList []
    | c :: s =>
      if c = ']' then
        Scan.refusePassed (.mismatch (.tooFew count shape.name shape.fields.length)) s
      else if count = 0 then next (c :: s)
      else if c = ',' then
        match Scan.skipSpace s with
        | [] => Scan.refuse .endInValue []
        | d :: s => if d = ']' then Scan.refuse .trailingComma (d :: s) else next (d :: s)
      else Scan.refuse .noCommaInList (c :: s)

/-- Reads the bracket after the last field. -/
def closeArray (s : List Char) : Except Fault (List Char) :=
  match Scan.skipSpace s with
  | [] => Scan.refuse .endInList []
  | c :: s =>
    if c = ']' then .ok s
    else if c = ',' then
      match Scan.skipSpace s with
      | [] => Scan.refuse .trailingCharacters []
      | d :: s => Scan.refuse (if d = ']' then .trailingComma else .trailingCharacters) (d :: s)
    else Scan.refuse .trailingCharacters (c :: s)

/-! ## Fields by name -/

/-- Where reading stands once a name was met that was given before: after the blanks behind it, and
after the brace if the object ends there. -/
def afterRepeated (s : List Char) : List Char :=
  match Scan.skipSpace s with
  | '}' :: rest => rest
  | rest => rest

/-- Reads the rest of a member called `name`, after the name: the content of a field into its slot,
which must be free, and any other value only passed over. -/
def readInto (name : String) (s : List Char) :
    (fields : List Field) → Slots fields → Scan (Slots fields)
  | [], () =>
    match Scan.colon s with
    | .error e => .error e
    | .ok s => (pass s).map fun s => ((), s)
  | f :: fields, (slot, slots) =>
    if f.name = name then
      if slot.isSome then Scan.refusePassed (.mismatch (.duplicateField name)) (afterRepeated s)
      else
        match Scan.colon s with
        | .error e => .error e
        | .ok s => (readContent f.kind s).map fun (c, s) => ((some c, slots), s)
    else (readInto name s fields slots).map fun (slots, s) => ((slot, slots), s)

/-- Reads the members of an object up to its brace, from the first one or after one. -/
def readFields (fuel : Nat) (fields : List Field) (slots : Slots fields) (first : Bool)
    (s : List Char) : Scan (Slots fields) :=
  match fuel with
  | 0 => Scan.refuse .endInObject []
  | fuel + 1 =>
    let member (s : List Char) : Scan (Slots fields) :=
      match Scan.string s with
      | .error e => .error e
      | .ok (name, s) =>
        match readInto name s fields slots with
        | .error e => .error e
        | .ok (slots, s) => readFields fuel fields slots false s
    match Scan.skipSpace s with
    | [] => Scan.refuse .endInObject []
    | c :: s =>
      if c = '}' then .ok (slots, s)
      else if first then if c = '"' then member s else Scan.refuse .noKey (c :: s)
      else if c = ',' then
        match Scan.skipSpace s with
        | [] => Scan.refuse .endInValue []
        | d :: s =>
          if d = '"' then member s
          else if d = '}' then Scan.refuse .trailingComma (d :: s)
          else Scan.refuse .noKey (d :: s)
      else Scan.refuse .noCommaInObject (c :: s)

/-! ## Records -/

/-- Reads a record. -/
def readShape (shape : Shape) (s : List Char) : Scan (Row shape.fields) :=
  match Scan.skipSpace s with
  | [] => Scan.refuse .endInValue []
  | c :: s =>
    if c = '[' then
      match readInOrder shape 0 s shape.fields with
      | .error e => .error e
      | .ok (row, s) => (closeArray s).map fun s => (row, s)
    else if c = '{' then
      match readFields (s.length + 1) shape.fields (.empty shape.fields) true s with
      | .error e => .error e
      | .ok (slots, s) =>
        match Slots.complete shape.fields slots with
        | .ok row => .ok (row, s)
        | .error m => Scan.refusePassed (.mismatch m) s
    else wrongKind (.record shape.name) (c :: s)

/-- Reads the characters of a document that is one record. -/
def readRecordChars (shape : Shape) (s : List Char) : Except Fault (Row shape.fields) :=
  match readShape shape s with
  | .error e => .error e
  | .ok (row, rest) => (ended rest).map fun _ => row

/-- Reads a document that is one record. -/
def readRecord (shape : Shape) (text : String) : Except Located (Row shape.fields) :=
  (readRecordChars shape text.toList).mapError (Fault.locate text.toList)

end CompileSession.Json
