import CompileSession.Json.Scan

/-!
# Reading a JSON value

A recursive descent over the characters left. `depth` counts the arrays and objects that may still
be opened, and `fuel` bounds the recursion: of three steps in a row one reads a character, so a text
never needs more fuel than three times its characters, and one more to meet its end.
-/

namespace CompileSession.Json

/-- The arrays and objects that may be open at once. -/
def maxDepth : Nat := 127

mutual

/-- Reads a value. -/
def readValue (fuel depth : Nat) (s : List Char) : Scan Json :=
  match fuel with
  | 0 => Scan.refuse .endInValue []
  | fuel + 1 =>
    match Scan.skipSpace s with
    | [] => Scan.refuse .endInValue []
    | c :: s =>
      if c = 'n' then (Scan.word "ull".toList s).map fun s => (.null, s)
      else if c = 't' then (Scan.word "rue".toList s).map fun s => (.boolean true, s)
      else if c = 'f' then (Scan.word "alse".toList s).map fun s => (.boolean false, s)
      else if c = '-' then (Scan.number true s).map fun (n, s) => (.number n, s)
      else if Text.isDigit c then (Scan.number false (c :: s)).map fun (n, s) => (.number n, s)
      else if c = '"' then (Scan.string s).map fun (t, s) => (.text t, s)
      else if c = '[' then
        match depth with
        | 0 => Scan.refuse .tooDeep (c :: s)
        | depth + 1 => (readItems fuel depth true s).map fun (items, s) => (.array items, s)
      else if c = '{' then
        match depth with
        | 0 => Scan.refuse .tooDeep (c :: s)
        | depth + 1 =>
          (readMembers fuel depth true s).map fun (members, s) => (.object (sorted members), s)
      else Scan.refuse .noValue (c :: s)

/-- Reads the items of an array up to its bracket, from the first one or after one. -/
def readItems (fuel depth : Nat) (first : Bool) (s : List Char) : Scan (List Json) :=
  match fuel with
  | 0 => Scan.refuse .endInList []
  | fuel + 1 =>
    match Scan.skipSpace s with
    | [] => Scan.refuse .endInList []
    | c :: s =>
      if c = ']' then .ok ([], s)
      else if first then readItem fuel depth (c :: s)
      else if c = ',' then
        match Scan.skipSpace s with
        | [] => Scan.refuse .endInValue []
        | d :: s =>
          if d = ']' then Scan.refuse .trailingComma (d :: s) else readItem fuel depth (d :: s)
      else Scan.refuse .noCommaInList (c :: s)

/-- Reads one item and those that follow it. -/
def readItem (fuel depth : Nat) (s : List Char) : Scan (List Json) :=
  match fuel with
  | 0 => Scan.refuse .endInValue []
  | fuel + 1 =>
    match readValue fuel depth s with
    | .error f => .error f
    | .ok (item, s) => (readItems fuel depth false s).map fun (items, s) => (item :: items, s)

/-- Reads the members of an object up to its brace, from the first one or after one, in the order
of the text. -/
def readMembers (fuel depth : Nat) (first : Bool) (s : List Char) : Scan Members :=
  match fuel with
  | 0 => Scan.refuse .endInObject []
  | fuel + 1 =>
    match Scan.skipSpace s with
    | [] => Scan.refuse .endInObject []
    | c :: s =>
      if c = '}' then .ok ([], s)
      else if first then
        if c = '"' then readMember fuel depth s else Scan.refuse .noKey (c :: s)
      else if c = ',' then
        match Scan.skipSpace s with
        | [] => Scan.refuse .endInValue []
        | d :: s =>
          if d = '"' then readMember fuel depth s
          else if d = '}' then Scan.refuse .trailingComma (d :: s)
          else Scan.refuse .noKey (d :: s)
      else Scan.refuse .noCommaInObject (c :: s)

/-- Reads one member, after the quote that opens its name, and those that follow it. -/
def readMember (fuel depth : Nat) (s : List Char) : Scan Members :=
  match fuel with
  | 0 => Scan.refuse .endInString []
  | fuel + 1 =>
    match Scan.string s with
    | .error f => .error f
    | .ok (name, s) =>
      match Scan.colon s with
      | .error f => .error f
      | .ok s =>
        match readValue fuel depth s with
        | .error f => .error f
        | .ok (value, s) =>
          (readMembers fuel depth false s).map fun (members, s) => ((name, value) :: members, s)

end

/-- Asks that nothing but blanks is left. -/
def ended (s : List Char) : Except Fault Unit :=
  match Scan.skipSpace s with
  | [] => .ok ()
  | c :: s => Scan.refuse .trailingCharacters (c :: s)

/-- Reads the characters of a document: one value between blanks. -/
def readChars (s : List Char) : Except Fault Json :=
  match readValue (3 * s.length + 1) maxDepth s with
  | .error f => .error f
  | .ok (value, rest) => (ended rest).map fun _ => value

/-- Reads a document. -/
def read (text : String) : Except Located Json :=
  (readChars text.toList).mapError (Fault.locate text.toList)

end CompileSession.Json
