import CompileSession.Service.Host

/-!
# Addresses

An address names a scheme, a host and the number of one of its ports, a path, a query and a
fragment. Reading is lenient: blanks around an address and line breaks in it do not count, in the
schemes of the web any number of slashes or backslashes may follow the colon, and characters that
may not stand for themselves are written with percent signs. Dots as steps of a path are resolved,
and a number that the scheme uses anyway is left out. `Url.render` is the one form in which an
address is written. A user name and a password are sent apart from the address, so
`Url.withoutCredentials` takes them out of it, as far as they are text.
-/

namespace CompileSession

/-- The path of an address. -/
inductive UrlPath where
  /-- steps, each after a slash -/
  | steps (names : List String)
  /-- a text that is not divided into steps, in an address without a host -/
  | undivided (text : String)
deriving DecidableEq, Repr

/-- A user name, which may be empty, and a password, as they stand in an address. -/
structure Credentials where
  name : String
  password : Option String
deriving DecidableEq, Repr

/-- An address. -/
structure Url where
  scheme : String
  credentials : Option Credentials
  /-- `none` if there is no place for a host; a host may also be the empty name -/
  host : Option Host
  /-- left out if it is the default of the scheme -/
  portNumber : Option Nat
  path : UrlPath
  query : Option String
  fragment : Option String
deriving DecidableEq, Repr

namespace Url

/-! ## Schemes -/

/-- The schemes of the web, with the ports they use by default. -/
def webSchemes : List (String × Option Nat) :=
  [("http", some 80), ("https", some 443), ("ws", some 80), ("wss", some 443), ("ftp", some 21),
   ("file", none)]

/-- Whether a scheme belongs to the web. -/
def isWeb (scheme : String) : Bool := webSchemes.any (·.1 == scheme)

/-- Which of the ports of a host a scheme uses unless another is named. -/
def defaultPortNumber (scheme : String) : Option Nat := (webSchemes.lookup scheme).join

/-- Whether `c` is an ASCII letter. -/
def isLetter (c : Char) : Bool := ('a' ≤ c && c ≤ 'z') || ('A' ≤ c && c ≤ 'Z')

/-- Whether `c` may stand in a scheme after its first letter. -/
def isSchemeChar (c : Char) : Bool :=
  isLetter c || Text.isDigit c || c == '+' || c == '-' || c == '.'

/-- The scheme in small letters, and what follows its colon. -/
def scheme? (cs : List Char) : Option (String × List Char) :=
  match cs, cs.dropWhile isSchemeChar with
  | c :: _, ':' :: rest =>
    if isLetter c then some (String.ofList ((cs.takeWhile isSchemeChar).map Char.toLower), rest)
    else none
  | _, _ => none

/-! ## Line breaks -/

/-- Whether `c` is a line break or a tabulator. -/
def isBreak (c : Char) : Bool := c == '\t' || c == '\n' || c == '\r'

/-- `cs` without line breaks and tabulators. -/
def unbroken (cs : List Char) : List Char := cs.filter (!isBreak ·)

/-- `cs` after its first character that is no break. -/
def dropOne (cs : List Char) : List Char := (cs.dropWhile isBreak).drop 1

/-! ## Characters that stand for themselves -/

/-- Whether `c` stands for itself in a fragment. -/
def inFragment (c : Char) : Bool := Host.isVisible c && !" \"<>`".toList.contains c

/-- Whether `c` stands for itself in a path. -/
def inPath (c : Char) : Bool := inFragment c && !"#?\x7b\x7d".toList.contains c

/-- Whether `c` stands for itself in a user name or a password. -/
def inCredentials (c : Char) : Bool := inPath c && !"/:;=@[\\]^|".toList.contains c

/-- Whether `c` stands for itself in a query. A quote does so only outside the web. -/
def inQuery (web : Bool) (c : Char) : Bool :=
  Host.isVisible c && !" \"#<>".toList.contains c && !(web && c == '\'')

/-- The text of a part of an address. -/
def part (mayStand : Char → Bool) (cs : List Char) : String :=
  String.ofList (Text.Percent.encode mayStand cs)

/-! ## Paths -/

/-- A step with its dots spelt without percent signs. -/
def dotted : List Char → List Char
  | '%' :: '2' :: 'e' :: rest => '.' :: dotted rest
  | '%' :: '2' :: 'E' :: rest => '.' :: dotted rest
  | c :: rest => c :: dotted rest
  | [] => []

/-- Whether a step is the name of a drive: a letter, then a colon or a bar, and nothing else. -/
def isDrive : List Char → Bool
  | [c, d] => isLetter c && (d == ':' || d == '|')
  | _ => false

/-- Whether a step is the name of a drive at least up to a backslash. -/
def beginsDrive (step : List Char) : Bool := isDrive (step.takeWhile (· != '\\'))

/-- The name of a drive in the form in which the path of a file begins with it. -/
def driveName : List Char → List Char
  | c :: _ => [c, ':']
  | [] => []

/-- The steps before `done`, last one first, when two dots follow: the last one is taken back, but
never the name of a drive. -/
def stepBack (done : List String) : List String :=
  match done with
  | [] => []
  | last :: before => if beginsDrive last.toList then done else before

/-- What follows the name of a drive in a step, if a break divides it from that name. -/
def behindDrive? (step : List Char) : Option (List Char) :=
  let front := (unbroken step).take 2
  let rest := dropOne (dropOne step)
  if isDrive front ∧ driveName front = front ∧ rest.head?.any isBreak ∧ unbroken rest ≠ [] then
    some (unbroken rest)
  else none

/-- The steps of a path with those of dots resolved, and whether it names a drive as the path of a
file does, which is to say first; `done` are the steps before, last one first. A path that ends in a
step of dots ends in a slash. What a break divides from a drive is a step even if it is dots. -/
def resolve (ofFile : Bool) (done : List String) : List (List Char) → List String × Bool
  | [] => (done.reverse, false)
  | broken :: rest =>
    let step := unbroken broken
    let dots := dotted step
    let goOn (done : List String) := resolve ofFile (if rest.isEmpty then "" :: done else done) rest
    if dots = ['.', '.'] then goOn (stepBack done)
    else if dots = ['.'] then goOn done
    else if ofFile ∧ done = [] then
      let drive := String.ofList (driveName step)
      if isDrive step then ((resolve ofFile [drive] rest).1, true)
      else
        match behindDrive? broken with
        | some behind => resolve ofFile [part inPath behind, drive] rest
        | none => resolve ofFile [part inPath step] rest
    else resolve ofFile (part inPath step :: done) rest

/-- Whether `c` divides the steps of a path. -/
def isSlash (web : Bool) (c : Char) : Bool := c == '/' || (web && c == '\\')

/-- The steps between the slashes of a path. -/
def stepsBetween (web : Bool) (cs : List Char) : List (List Char) :=
  Text.pieces '/' (cs.map fun c => if isSlash web c then '/' else c)

/-- The path that stands where an address goes on after its host. -/
def pathAfterHost (web : Bool) (cs : List Char) : List String :=
  if cs.isEmpty && !web then []
  else
    let steps := stepsBetween web cs
    (resolve false [] (if cs.head?.any (isSlash web) then steps.drop 1 else steps)).1

/-! ## Hosts and what stands beside them -/

/-- The part of `cs` before its last `@`, if there is one, and the part after it. -/
def cutUser (cs : List Char) : Option (List Char) × List Char :=
  let after := (cs.reverse.takeWhile (· != '@')).reverse
  (if cs.contains '@' then some (cs.take (cs.length - after.length - 1)) else none, after)

/-- The credentials that stand before an `@`, if any: a name up to the first colon, and a
password. -/
def credentials? (cs : List Char) : Option Credentials :=
  let name := cs.takeWhile (· != ':')
  let password := cs.drop (name.length + 1)
  if name.isEmpty ∧ password.isEmpty then none
  else
    some ⟨part inCredentials name,
      if password.isEmpty then none else some (part inCredentials password)⟩

/-- `cs` cut before its first colon outside brackets. -/
def cutNumber (inside : Bool) : List Char → List Char × List Char
  | [] => ([], [])
  | c :: rest =>
    if c = ':' ∧ !inside then ([], c :: rest)
    else
      let r := cutNumber (c == '[' || (inside && c != ']')) rest
      (c :: r.1, r.2)

/-- The number after a host: none if no digit follows the colon, or if it is the default. -/
def portNumber? (scheme : String) : List Char → Option (Option Nat)
  | [] => some none
  | [_] => some none
  | _ :: digits => do
    let n ← Text.natural? digits
    if n < 65536 then some (if defaultPortNumber scheme = some n then none else some n)
    else none

/-- What an address says of where it leads: the credentials, the host and its number. -/
structure Authority where
  credentials : Option Credentials
  host : Host
  portNumber : Option Nat

/-- What stands between the slashes in front of an address and its path, and the rest of it, which
begins with a backslash behind a number; `isLast` if nothing follows `cs`. Credentials need a host,
and so does a number. -/
def authority? (scheme : String) (isLast : Bool) (cs : List Char) :
    Option (Authority × List Char) := do
  let (user, cs) := cutUser cs
  let (name, number) := cutNumber false cs
  let credentials := user.bind credentials?
  if name.isEmpty then
    if isWeb scheme || !number.isEmpty || credentials.isSome || (user == some [] && !isLast) then
      none
    else some (⟨none, .domain "", none⟩, [])
  else
    let host ← if isWeb scheme then Host.ofWeb? name else Host.ofOther? name
    let number' := number.takeWhile (· != '\\')
    return (⟨credentials, host, ← portNumber? scheme number'⟩, number.drop number'.length)

/-- The host that an address of a file names; this very machine needs no name. -/
def fileHost? (cs : List Char) : Option Host :=
  if cs.isEmpty then some (.domain "")
  else do
    let host ← Host.ofWeb? cs
    return if host = .domain "localhost" then .domain "" else host

/-- The host and the path of a file, after the colon of its scheme. The name of a drive may stand in
the place of a host, and a host before the name of a drive does not count. -/
def file? (cs : List Char) : Option (Host × List String) := do
  if ((unbroken cs).takeWhile (isSlash true)).length < 2 then
    return (.domain "", rooted (resolve true [] (steps cs)).1)
  let cs := dropOne (dropOne cs)
  let name := unbroken (cs.takeWhile (!isSlash true ·))
  if isDrive name then return (.domain "", rooted (resolve true [] (stepsBetween true cs)).1)
  let host ← fileHost? name
  let cs := cs.dropWhile (!isSlash true ·)
  if host = .domain "" then return (host, rooted (resolve true [] (stepsBetween true cs)).1)
  let (path, ofDrive) := resolve true [] (steps cs)
  return (if ofDrive then .domain "" else host, rooted path)
where
  /-- The steps of a path, which may begin with a slash. -/
  steps (cs : List Char) : List (List Char) :=
    stepsBetween true (if (unbroken cs).head?.any (isSlash true) then dropOne cs else cs)
  /-- The path of a file without empty steps in front. -/
  rooted (steps : List String) : List String :=
    match steps.dropWhile (· == "") with
    | [] => [""]
    | steps => steps

/-! ## Reading -/

/-- Whether `c` ends the path of an address. -/
def endsPath (c : Char) : Bool := c == '?' || c == '#'

/-- The query and the fragment at the end of an address. -/
def ending (web : Bool) (cs : List Char) : Option String × Option String :=
  (match cs with
    | '?' :: rest => some (part (inQuery web) (rest.takeWhile (· != '#')))
    | _ => none,
   match cs.dropWhile (· != '#') with
    | _ :: rest => some (part inFragment rest)
    | [] => none)

/-- The address of which `scheme` and the text after its colon are given. -/
def ofScheme? (scheme : String) (cs : List Char) : Option Url := do
  let web := isWeb scheme
  let tail := cs.dropWhile (!endsPath ·)
  let (query, fragment) := ending web (unbroken tail)
  let broken := cs.takeWhile (!endsPath ·)
  let cs := unbroken broken
  let hosted (cs : List Char) : Option Url := do
    let front := cs.takeWhile (!isSlash web ·)
    let path := cs.drop front.length
    let (authority, more) ← authority? scheme (path.isEmpty && tail.isEmpty) front
    return ⟨scheme, authority.credentials, some authority.host, authority.portNumber,
      .steps (pathAfterHost web (more ++ path)), query, fragment⟩
  if scheme = "file" then
    let (host, path) ← file? broken
    return ⟨scheme, none, some host, none, .steps path, query, fragment⟩
  else if web then hosted (cs.dropWhile (isSlash true))
  else
    match cs with
    | '/' :: '/' :: cs => hosted cs
    | '/' :: _ =>
      return ⟨scheme, none, none, none, .steps (pathAfterHost false cs), query, fragment⟩
    | _ =>
      return ⟨scheme, none, none, none, .undivided (part Host.isVisible cs), query, fragment⟩

/-- `cs` without blanks and controls at its ends. -/
def trimmed (cs : List Char) : List Char :=
  ((cs.dropWhile (· ≤ ' ')).reverse.dropWhile (· ≤ ' ')).reverse

/-- The address that a text spells. -/
def ofText? (text : String) : Option Url := do
  let cs := trimmed text.toList
  let (scheme, _) ← scheme? (unbroken cs)
  ofScheme? scheme ((cs.dropWhile (· != ':')).drop 1)

/-! ## Writing -/

/-- The text of a path. Two slashes at its front would begin a host, so a step of one dot is put
before them where there is none. -/
def renderPath (hosted : Bool) : UrlPath → String
  | .undivided text => text
  | .steps names =>
    (if !hosted && names.length > 1 && names.head? == some "" then "/." else "")
      ++ String.join (names.map ("/" ++ ·))

/-- The text of credentials. -/
def renderCredentials (c : Credentials) : String :=
  c.name ++ (c.password.map (":" ++ ·)).getD "" ++ "@"

/-- The text of an address. -/
def render (u : Url) : String :=
  u.scheme ++ ":"
    ++ (u.host.map fun h =>
      "//" ++ (u.credentials.map renderCredentials).getD "" ++ h.render).getD ""
    ++ (u.portNumber.map fun n => ":" ++ toString n).getD ""
    ++ renderPath u.host.isSome u.path
    ++ (u.query.map ("?" ++ ·)).getD ""
    ++ (u.fragment.map ("#" ++ ·)).getD ""

/-- What a request line asks for: the path and the query of an address. -/
def target (u : Url) : String :=
  renderPath u.host.isSome u.path ++ (u.query.map ("?" ++ ·)).getD ""

/-- Whether a part of credentials is text, once its percent signs are read. -/
def isReadable (part : String) : Bool :=
  (Text.decode? (Text.Percent.decode part.toList)).isSome

/-- An address without its credentials. Those whose name is no text stay, and so does a password
that is none and has no name. -/
def withoutCredentials (u : Url) : Url :=
  match u.credentials with
  | none => u
  | some c =>
    if isReadable c.name && (c.name != "" || c.password.all isReadable) then
      { u with credentials := none }
    else u

/-- Whether an address names a host at all. -/
def hasHost (u : Url) : Bool := u.host.isSome && u.host != some (.domain "")

/-- Whether requests can be sent to an address: its scheme carries them, and the name of its host
may stand in a request. -/
def carriesRequests (u : Url) : Bool :=
  (u.scheme == "http" || u.scheme == "https") && u.hasHost
    && !(u.host.map Host.render).any fun name => name.toList.any "\"`\x7b\x7d".toList.contains

end Url

end CompileSession
