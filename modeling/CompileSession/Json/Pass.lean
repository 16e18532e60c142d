import CompileSession.Json.Scan

/-!
# Passing over a JSON value

A value that nobody asked for is only passed over: its grammar must hold, but arrays and objects
may nest without limit, numbers may have any size and surrogates need no partner. Where an item or
a name should follow a comma, a closing bracket is met as the wrong character, not as a trailing
comma.
-/

namespace CompileSession.Json

mutual

/-- Passes over a value. -/
def passValue (fuel : Nat) (s : List Char) : Except Fault (List Char) :=
  match fuel with
  | 0 => Scan.refuse .endInValue []
  | fuel + 1 =>
    match Scan.skipSpace s with
    | [] => Scan.refuse .endInValue []
    | c :: s =>
      if c = 'n' then Scan.word "ull".toList s
      else if c = 't' then Scan.word "rue".toList s
      else if c = 'f' then Scan.word "alse".toList s
      else if c = '-' then Scan.passNumber s
      else if Text.isDigit c then Scan.passNumber (c :: s)
      else if c = '"' then Scan.passString s
      else if c = '[' then passItems fuel true s
      else if c = '{' then passMembers fuel true s
      else Scan.refuse .noValue (c :: s)

/-- Passes over the items of an array and its bracket, from the first one or after one. -/
def passItems (fuel : Nat) (first : Bool) (s : List Char) : Except Fault (List Char) :=
  match fuel with
  | 0 => Scan.refuse .endInList []
  | fuel + 1 =>
    match Scan.skipSpace s with
    | [] => Scan.refuse .endInList []
    | c :: s =>
      if c = ']' then .ok s
      else if first then
        match passValue fuel (c :: s) with
        | .error f => .error f
        | .ok s => passItems fuel false s
      else if c = ',' then
        match passValue fuel s with
        | .error f => .error f
        | .ok s => passItems fuel false s
      else Scan.refuse .noCommaInList (c :: s)

/-- Passes over the members of an object and its brace, from the first one or after one. -/
def passMembers (fuel : Nat) (first : Bool) (s : List Char) : Except Fault (List Char) :=
  match fuel with
  | 0 => Scan.refuse .endInObject []
  | fuel + 1 =>
    match Scan.skipSpace s with
    | [] => Scan.refuse .endInObject []
    | c :: s =>
      if c = '}' then .ok s
      else if first then passMember fuel (c :: s)
      else if c = ',' then passMember fuel s
      else Scan.refuse .noCommaInObject (c :: s)

/-- Passes over one member and those that follow it. -/
def passMember (fuel : Nat) (s : List Char) : Except Fault (List Char) :=
  match fuel with
  | 0 => Scan.refuse .endInObject []
  | fuel + 1 =>
    match Scan.skipSpace s with
    | [] => Scan.refuse .endInObject []
    | c :: s =>
      if c = '"' then
        match Scan.passString s with
        | .error f => .error f
        | .ok s =>
          match Scan.colon s with
          | .error f => .error f
          | .ok s =>
            match passValue fuel s with
            | .error f => .error f
            | .ok s => passMembers fuel false s
      else Scan.refuse .noKey (c :: s)

end

/-- Passes over a value of any size. -/
def pass (s : List Char) : Except Fault (List Char) := passValue (3 * s.length + 1) s

end CompileSession.Json
