/-!
# Warnings

What the session notes for its operator: things that went wrong and were put up with. A warning
changes nothing else.
-/

namespace CompileSession

/-- A thing that went wrong and was put up with. -/
inductive Warning where
  | positionOutOfRange
  | positionIncomplete
  | encodingIgnored
  | timeoutIgnored
  | saveFailed
  | readFailed
  | documentUnreadable
  | exceptionRaised
  | responseUnusable
  | requestFailed
deriving DecidableEq, Repr

/-- The text of a warning. -/
def Warning.message : Warning → String
  | .positionOutOfRange => "error position out of range, reporting as message only"
  | .positionIncomplete => "error position partially present, reporting as message only"
  | .encodingIgnored => "ignoring WYLAB_REQUEST_ENCODING"
  | .timeoutIgnored => "ignoring WYLAB_TIMEOUT_SECS, expected a positive integer"
  | .saveFailed => "failed to save session state"
  | .readFailed => "failed to read session state"
  | .documentUnreadable => "stored session state is unreadable, ignoring it"
  | .exceptionRaised => "compiler service raised an exception"
  | .responseUnusable => "unusable compile response"
  | .requestFailed => "compile request failed, still pending"

end CompileSession
