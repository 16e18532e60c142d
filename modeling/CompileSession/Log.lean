/-!
# The message log

The messages shown beside the text, in the order they came.
-/

namespace CompileSession

/-- Whether a message tells of success or of an error. -/
inductive Tone where
  | success
  | error
deriving DecidableEq, Repr

/-- One message. -/
structure Message where
  tone : Tone
  text : String
deriving DecidableEq, Repr

/-- The messages, in the order they came. -/
abbrev Log := List Message

/-- The log with one more message. -/
def Log.append (tone : Tone) (text : String) (log : Log) : Log := log ++ [⟨tone, text⟩]

end CompileSession
