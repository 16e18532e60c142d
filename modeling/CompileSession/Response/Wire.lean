import CompileSession.Response.Outcome
import CompileSession.Text.Blank
import CompileSession.Text.Decimal
import CompileSession.Warning

/-!
# Diagnostics on the wire

A diagnostic travels as an object, or as an array of its fields in the order `text`, `line`,
`start`, `end`, `counterexample`, `filename`, `context`, of which all but the first may be left
out. Reading checks the kind of every field; `validate` then decides whether the three numbers make
a span, and `warnings` tells where they do not although some were given.
-/

namespace CompileSession.Wire

/-- A diagnostic as it travels, its position not looked at. -/
structure Record where
  text : String
  line : Option Int
  start : Option Int
  last : Option Int
  counterexample : Option String
  filename : Option String
  context : List Record
deriving Repr, Inhabited

/-- The name of a record in messages. -/
def recordName : String := "WireErrorRecord"

/-- Reads a value of the payload of an answer. -/
abbrev Reading (α : Type) := Except PayloadFault α

/-- Refuses a value of another kind than the one wanted. -/
def refuse {α : Type} (v : Json) (wanted : Json.Wanted) : Reading α :=
  .error (.mismatch (.wrongKind v.found wanted))

/-- Reads a text. -/
def text : Json → Reading String
  | .text s => .ok s
  | v => refuse v .text

/-- Reads the text that a member may hold; a member absent or null holds none. -/
def optionalText : Option Json → Reading (Option String)
  | none => .ok none
  | some .null => .ok none
  | some v => (text v).map some

/-- Reads a text that must be there. -/
def requiredText (name : String) : Option Json → Reading String
  | none => .error (.mismatch (.missingField name))
  | some v => text v

/-- Reads the whole number that a text holds between blanks, or nothing if it holds only blanks. -/
def positionText (s : String) : Reading (Option Int) :=
  match Text.trim s.toList with
  | [] => .ok none
  | cs =>
    match Text.int64? cs with
    | some i => .ok (some i)
    | none => .error (.badPosition s)

/-- Reads a position: a whole number of 64 bits, as a number or as a text, or nothing. -/
def position : Option Json → Reading (Option Int)
  | none => .ok none
  | some .null => .ok none
  | some (.number (.integer i)) => if Text.fitsInt64 i then .ok (some i) else .error .noPosition
  | some (.text s) => positionText s
  | some _ => .error .noPosition

mutual

/-- Reads a record. The members of an object are read in ascending order of their names. -/
def record : Json → Reading Record
  | .object members =>
    match contextMember members with
    | .error e => .error e
    | .ok context => do
      let counterexample ← optionalText (Json.get? "counterexample" members)
      let last ← position (Json.get? "end" members)
      let filename ← optionalText (Json.get? "filename" members)
      let line ← position (Json.get? "line" members)
      let start ← position (Json.get? "start" members)
      let text ← requiredText "text" (Json.get? "text" members)
      return ⟨text, line, start, last, counterexample, filename, context⟩
  | .array [] => .error (.mismatch (.tooFew 0 recordName 7))
  | .array (t :: fields) =>
    match fields with
    | _ :: _ :: _ :: _ :: _ :: c :: rest =>
      match head t fields with
      | .error e => .error e
      | .ok r =>
        match records c with
        | .error e => .error e
        | .ok context =>
          if rest.isEmpty then .ok { r with context := context }
          else .error (.mismatch (.tooMany (7 + rest.length)))
    | fields => head t fields
  | v => refuse v (.record recordName)
where
  /-- Reads all fields but the context from the front of an array. -/
  head (t : Json) (fields : List Json) : Reading Record := do
    let text ← text t
    let line ← position fields[0]?
    let start ← position fields[1]?
    let last ← position fields[2]?
    let counterexample ← optionalText fields[3]?
    let filename ← optionalText fields[4]?
    return ⟨text, line, start, last, counterexample, filename, []⟩

/-- Reads the records of the member `context`; if it is absent there are none. -/
def contextMember : List (String × Json) → Reading (List Record)
  | [] => .ok []
  | (name, value) :: members =>
    if name = "context" then records value else contextMember members

/-- Reads an array of records. -/
def records : Json → Reading (List Record)
  | .array items => recordList items
  | v => refuse v .sequence

/-- Reads the records of an array, one after the other. -/
def recordList : List Json → Reading (List Record)
  | [] => .ok []
  | item :: items =>
    match record item with
    | .error e => .error e
    | .ok r => (recordList items).map (r :: ·)

end

/-- A whole number as a line or column, if it is one. -/
def column? (i : Int) : Option UInt32 :=
  if 0 ≤ i ∧ i < 4294967296 then some (UInt32.ofNat i.toNat) else none

/-- The span that three positions make, if all are there and valid. -/
def span? : Option Int → Option Int → Option Int → Option Span
  | some line, some start, some last => do
    let line ← column? line
    let start ← column? start
    let last ← column? last
    Span.of? line start last
  | _, _, _ => none

/-- The warnings about three positions: none if they make a span or are all absent, one if they are
out of range or incomplete. -/
def positionWarnings : Option Int → Option Int → Option Int → List Warning
  | none, none, none => []
  | some line, some start, some last =>
    if (span? (some line) (some start) (some last)).isSome then [] else [.positionOutOfRange]
  | _, _, _ => [.positionIncomplete]

mutual

/-- The diagnostic that a record stands for. -/
def Record.validate : Record → Diagnostic
  | ⟨text, line, start, last, counterexample, filename, context⟩ =>
    ⟨text, span? line start last, counterexample, filename, validateAll context⟩

/-- The diagnostics that records stand for. -/
def validateAll : List Record → List Diagnostic
  | [] => []
  | r :: rs => r.validate :: validateAll rs

end

mutual

/-- The warnings about a record, before those about its context. -/
def Record.warnings : Record → List Warning
  | ⟨_, line, start, last, _, _, context⟩ =>
    positionWarnings line start last ++ warningsAll context

/-- The warnings about records, one after the other. -/
def warningsAll : List Record → List Warning
  | [] => []
  | r :: rs => r.warnings ++ warningsAll rs

end

end CompileSession.Wire
