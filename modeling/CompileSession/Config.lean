import CompileSession.Request.Body
import CompileSession.Store.Database
import CompileSession.Text.Decimal
import CompileSession.Warning

/-!
# Settings

Where the service is, where the session is saved, how requests travel, how long an answer is
awaited and which program runs artifacts. Each setting has a default and may be given in the
environment; one that makes no sense is ignored with a warning.
-/

namespace CompileSession

/-- The settings of a client. -/
structure Config where
  serverUrl : String
  dbPath : String
  encoding : Encoding
  /-- in seconds; without one an answer is awaited forever -/
  timeout : Option Nat
  node : String
deriving DecidableEq, Repr

namespace Config

/-- The settings without an environment. -/
def default : Config where
  serverUrl := "http://localhost:8080"
  dbPath := "wylab.db"
  encoding := .form
  timeout := none
  node := "node"

/-- A positive whole number of at most 64 bits, between blanks. -/
def timeout? (s : String) : Option Nat := (Text.nat64? (Text.trim s.toList)).filter (0 < ·)

/-- The settings that an environment gives, and the warnings about it. -/
def ofEnvironment (lookup : String → Option String) : Config × List Warning :=
  let encoding := (lookup "WYLAB_REQUEST_ENCODING").map Encoding.ofName?
  let timeout := (lookup "WYLAB_TIMEOUT_SECS").map timeout?
  ({ serverUrl := (lookup "WYLAB_SERVER_URL").getD default.serverUrl
     dbPath := (lookup "WYLAB_DB_PATH").getD default.dbPath
     encoding := encoding.join.getD default.encoding
     timeout := timeout.join
     node := (lookup "WYLAB_NODE").getD default.node },
   (if encoding = some none then [.encodingIgnored] else []) ++
     if timeout = some none then [.timeoutIgnored] else [])

/-- The address that requests are sent to. Slashes at the end of the server's address do not
count. -/
def endpoint (c : Config) : String :=
  String.ofList ((c.serverUrl.toList.reverse.dropWhile (· == '/')).reverse) ++ "/compile"

/-- Where the session is saved. -/
def location (c : Config) : Location := .ofPath c.dbPath

/-- Whether the session is kept in memory only. -/
def inMemory (c : Config) : Bool := c.location == .memory

end Config

end CompileSession
