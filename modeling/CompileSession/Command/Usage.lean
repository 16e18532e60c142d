/-!
# Commands and their arguments

Two commands do the work, `compile` and `session`; a third one helps. The options `--server` and
`--db` may stand before a command or among its own arguments. A `UsageError` is a fault in a command
line; it is reported before anything is done.
-/

namespace CompileSession

/-- A command. -/
inductive Command where
  | compile
  | session
  | help
deriving DecidableEq, Repr

/-- The command of a name. -/
def Command.ofName? (name : String) : Option Command :=
  if name = "compile" then some .compile
  else if name = "session" then some .session
  else if name = "help" then some .help
  else none

/-- An argument that a command line may give. -/
inductive Argument where
  | help
  | server
  | db
  | file
  | verify
  | noVerify
  | counterexamples
  | run
deriving DecidableEq, Repr

namespace Argument

/-- How an argument is named in messages. -/
def label : Argument → String
  | .help => "--help"
  | .server => "--server <SERVER>"
  | .db => "--db <DB>"
  | .file => "[FILE]"
  | .verify => "--verify"
  | .noVerify => "--no-verify"
  | .counterexamples => "--counterexamples"
  | .run => "--run"

/-- Whether an argument has a value. -/
def takesValue : Argument → Bool
  | .server | .db | .file => true
  | _ => false

end Argument

/-- The arguments that may stand somewhere in a command line: before the command, or after it. -/
structure Level where
  /-- the long names of options and flags, without dashes -/
  names : List (String × Argument)
  /-- the argument that needs no name -/
  unnamed : Option Argument
  /-- whether a command comes next -/
  commands : Bool

namespace Level

/-- The names that may stand anywhere. -/
def globalNames : List (String × Argument) :=
  [("server", .server), ("db", .db), ("help", .help)]

/-- What may stand before the command. -/
def top : Level := ⟨globalNames, none, true⟩

/-- What may stand after `compile`. -/
def compile : Level where
  names := globalNames ++
    [("verify", .verify), ("no-verify", .noVerify), ("counterexamples", .counterexamples),
     ("run", .run)]
  unnamed := some .file
  commands := false

/-- What may stand after `session`. -/
def session : Level := ⟨globalNames, none, false⟩

end Level

/-- A fault in a command line. -/
inductive UsageError where
  | unexpected (argument : String)
  | unneededValue (value : String) (argument : Argument)
  | missingValue (argument : Argument)
  | repeated (argument : Argument)
  | conflict (first second : Argument)
  | unknownCommand (name : String)
  | noCommand
  /-- nothing was given at all -/
  | nothing
deriving DecidableEq, Repr

/-- What the program is for. -/
def about : String := "Compile-session client for a remote compiler service"

/-- The text of a fault in a command line. If nothing was given it says what the program is for. -/
def UsageError.message : UsageError → String
  | .unexpected argument => "error: unexpected argument '" ++ argument ++ "' found"
  | .unneededValue value argument =>
    "error: unexpected value '" ++ value ++ "' for '" ++ argument.label
      ++ "' found; no more were expected"
  | .missingValue argument =>
    "error: a value is required for '" ++ argument.label ++ "' but none was supplied"
  | .repeated argument =>
    "error: the argument '" ++ argument.label ++ "' cannot be used multiple times"
  | .conflict first second =>
    "error: the argument '" ++ first.label ++ "' cannot be used with '" ++ second.label ++ "'"
  | .unknownCommand name => "error: unrecognized subcommand '" ++ name ++ "'"
  | .noCommand => "error: 'wylab' requires a subcommand but one was not provided"
  | .nothing => about

end CompileSession
