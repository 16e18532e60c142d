import CompileSession.Command.Usage

/-!
# Command lines

A command line is read from left to right, one level after the other: what stands before the
command, then what stands after it. An option waits for its value in the next argument, and it and
its value are looked at only when the next option or flag is, or when the level ends. So a name
that is not known is reported before an option without its value, and a fault after the command
before one in the value of the last option in front of it. After `--` nothing is a name.
-/

namespace CompileSession

/-- Why reading a command line stops: help is asked for, or there is a fault. -/
inductive Stop where
  | help
  | fault (error : UsageError)
deriving DecidableEq, Repr

/-- A level of a command line as it is read. -/
structure Seen where
  /-- the arguments given, oldest first, with the values of those that have one -/
  given : List (Argument × String)
  /-- an argument that was not looked at yet; without a value it waits for one -/
  waiting : Option (Argument × Option String)
  /-- whether `--` was given -/
  trailing : Bool
deriving DecidableEq, Repr

namespace Seen

/-- Nothing read. -/
def nothing : Seen := ⟨[], none, false⟩

/-- The value of an argument that was given. -/
def value? (a : Argument) (s : Seen) : Option String := s.given.lookup a

/-- Whether an argument was given. -/
def has (a : Argument) (s : Seen) : Bool := s.given.any (·.1 == a)

/-- Takes an argument with its value, if it has one. -/
def give (a : Argument) (value : Option String) (s : Seen) : Except Stop Seen :=
  if a.takesValue ∧ value = none then .error (.fault (.missingValue a))
  else if s.has a then .error (.fault (.repeated a))
  else if a = .file ∧ value = some "" then .error (.fault (.missingValue a))
  else .ok { s with given := s.given ++ [(a, value.getD "")] }

/-- Looks at the argument that was not looked at yet. -/
def settle (s : Seen) : Except Stop Seen :=
  match s.waiting with
  | none => .ok s
  | some (a, value) => give a value { s with waiting := none }

/-- Takes an argument without waiting for anything. -/
def take (a : Argument) (value : Option String) (s : Seen) : Except Stop Seen := do
  let s ← s.settle
  if a = .help then .error .help else s.give a value

/-- Keeps an argument to be looked at later. -/
def expect (a : Argument) (value : Option String) (s : Seen) : Except Stop Seen := do
  return { ← s.settle with waiting := some (a, value) }

/-- Whether an option waits for its value. -/
def awaits (s : Seen) : Bool :=
  match s.waiting with
  | some (_, none) => true
  | _ => false

/-- Whether an argument was given or is about to be. -/
def mentions (a : Argument) (s : Seen) : Bool := s.has a || s.waiting.any (·.1 == a)

/-- Looks at what is left, at the end of a level, and at the two flags that exclude each other. -/
def finish (s : Seen) : Except Stop Seen := do
  let s ← s.settle
  match s.given.filter fun g => g.1 == .verify || g.1 == .noVerify with
  | first :: second :: _ => .error (.fault (.conflict first.1 second.1))
  | _ => .ok s

end Seen

namespace Level

/-- The fault that a word is which has no place. -/
def misplaced (l : Level) (trailing : Bool) (word : String) : UsageError :=
  if l.commands && !(trailing && (Command.ofName? word).isSome) then .unknownCommand word
  else .unexpected word

/-- Reads a word that is no name. -/
def word (l : Level) (word : String) (s : Seen) : Except Stop Seen :=
  match l.unnamed with
  | none => .error (.fault (l.misplaced s.trailing word))
  | some a =>
    if s.mentions a then .error (.fault (l.misplaced s.trailing word))
    else s.expect a (some word)

/-- Reads a long name, with the value after its equals sign. -/
def long (l : Level) (name : String) (value : Option String) (s : Seen) : Except Stop Seen :=
  match l.names.lookup name with
  | none => .error (.fault (.unexpected ("--" ++ name)))
  | some a =>
    match a.takesValue, value with
    | true, some v => s.take a (some v)
    | true, none => s.expect a none
    | false, some v => .error (.fault (.unneededValue v a))
    | false, none => s.take a none

/-- Reads the first of the short names that an argument holds; `h` asks for help. -/
def short (name : Char) (s : Seen) : Except Stop Seen :=
  if name = 'h' then s.take .help none
  else .error (.fault (.unexpected (String.ofList ['-', name])))

/-- Reads one argument. -/
def step (l : Level) (argument : String) (s : Seen) : Except Stop Seen :=
  if s.trailing then l.word argument s
  else
    match argument.toList with
    | ['-', '-'] => .ok { s with trailing := true }
    | '-' :: '-' :: rest =>
      l.long (String.ofList (rest.takeWhile (· != '=')))
        (if rest.contains '=' then some (String.ofList ((rest.dropWhile (· != '=')).drop 1))
          else none) s
    | '-' :: name :: _ => short name s
    | _ =>
      match s.waiting with
      | some (a, none) => .ok { s with waiting := some (a, some argument) }
      | _ => l.word argument s

/-- The command that an argument names, where one may stand. -/
def command? (l : Level) (argument : String) (s : Seen) : Option Command :=
  if l.commands && !s.trailing && !s.awaits then Command.ofName? argument else none

/-- Reads a level: what was seen, and the command that ends it with the arguments after it. -/
def read (l : Level) (s : Seen) : List String → Except Stop (Seen × Option (Command × List String))
  | [] => .ok (s, none)
  | argument :: rest =>
    match l.command? argument s with
    | some c => .ok (s, some (c, rest))
    | none =>
      match l.step argument s with
      | .error e => .error e
      | .ok s => l.read s rest

/-- Reads a level after which nothing comes. -/
def readLast (l : Level) (arguments : List String) : Except Stop Seen := do
  (← l.read .nothing arguments).1.finish

end Level

/-- What to compile, and how. -/
structure CompileOrder where
  file : Option String
  /-- as in the saved session if not given -/
  verify : Option Bool
  counterexamples : Bool
  run : Bool
deriving DecidableEq, Repr

/-- What is to be done. -/
inductive Order where
  | compile (order : CompileOrder)
  | session
deriving DecidableEq, Repr

/-- A command line that was understood. -/
structure CommandLine where
  server : Option String
  db : Option String
  order : Order
deriving DecidableEq, Repr

namespace CommandLine

/-- What to compile, by the arguments after the command. -/
def compileOrder (s : Seen) : CompileOrder where
  file := s.value? .file
  verify := if s.has .verify then some true else if s.has .noVerify then some false else none
  counterexamples := s.has .counterexamples
  run := s.has .run

/-- What asking for help on commands comes to: only those before can be helped with. -/
def helpOn : List String → Stop
  | [] => .help
  | [name] => if (Command.ofName? name).isSome then .help else .fault (.unknownCommand name)
  | name :: other :: _ =>
    if (Command.ofName? name).isSome then .fault (.unknownCommand other)
    else .fault (.unknownCommand name)

/-- A command line of which both levels were read. An option counts where it stands last. -/
def ofLevels (top last : Seen) (order : Order) : CommandLine where
  server := last.value? .server <|> top.value? .server
  db := last.value? .db <|> top.value? .db
  order := order

/-- Reads a command line. -/
def read (arguments : List String) : Except Stop CommandLine := do
  let (top, command) ← Level.top.read .nothing arguments
  match command with
  | none =>
    let top ← top.settle
    .error (.fault (if top.given.isEmpty then .nothing else .noCommand))
  | some (.help, rest) => .error (helpOn rest)
  | some (.compile, rest) =>
    let last ← Level.compile.readLast rest
    return ofLevels (← top.settle) last (.compile (compileOrder last))
  | some (.session, rest) =>
    let last ← Level.session.readLast rest
    return ofLevels (← top.settle) last .session

end CommandLine

end CompileSession
