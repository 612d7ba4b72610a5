import PerfGate.Http.Host

/-!
# Addresses

The address of a document on a server: user, host, port, path, query and fragment. `Address.parse`
reads what stands behind `http://`, and `Address.text` writes the address in one way: characters
that an address cannot hold are escaped, the steps `.` and `..` of the path are carried out, and the
standard port is left out.
-/

namespace PerfGate.Http

/-- Why a text is no address. -/
inductive AddressError where
  | host (reason : HostError)
  | badPort
  deriving DecidableEq, Repr

/-- The name of the error, and what it means. -/
def AddressError.message : AddressError → String
  | host .empty => "EmptyHost: empty host"
  | host .badName => "IdnaError: invalid international domain name"
  | host .badIpv4 => "InvalidIpv4Address: invalid IPv4 address"
  | host .badIpv6 => "InvalidIpv6Address: invalid IPv6 address"
  | badPort => "InvalidPort: invalid port number"

/-- The address of a document on a server, with its parts escaped. -/
structure Address where
  /-- User and password, with a colon between them. -/
  user : String
  host : Host
  /-- The port, unless it is the standard one. -/
  port : Option Nat
  /-- The steps of the path. -/
  steps : List String
  query : Option String
  fragment : Option String
  deriving DecidableEq, Repr

namespace Address

/-- The port of a server when none is given. -/
def standardPort : Nat := 80

/-- What a fragment cannot hold. -/
def reservedInFragment : List Char := [' ', '"', '<', '>', '\x60']

/-- What a query cannot hold. -/
def reservedInQuery : List Char := [' ', '"', '#', '<', '>', '\x27']

/-- What a step of a path cannot hold. -/
def reservedInPath : List Char := reservedInFragment ++ ['#', '?', '\x7b', '\x7d']

/-- What a user cannot hold. -/
def reservedInUser : List Char :=
  reservedInPath ++ ['/', ':', ';', '=', '@', '[', '\\', ']', '^', '|']

/-- The character ends the part of an address that names the server. -/
def endsServer (c : Char) : Bool :=
  c == '/' || c == '\\' || c == '?' || c == '#'

/-- The character separates the steps of a path. -/
def isSlash (c : Char) : Bool :=
  c == '/' || c == '\\'

/-- The characters of an address: those at its end that are blank or a control are no part of it,
and neither are tabs and line breaks. -/
def significant (cs : List Char) : List Char :=
  (cs.reverse.dropWhile (·.toNat ≤ 0x20)).reverse.filter fun c =>
    c != '\t' && c != '\n' && c != '\r'

/-- What stands before and after the last `@`. -/
def splitUser (server : List Char) : Option (List Char × List Char) :=
  if server.contains '@' then
    let after := (server.reverse.takeWhile (· != '@')).reverse
    some (server.take (server.length - after.length - 1), after)
  else none

/-- User and password, escaped; a password that is empty does not count. -/
def escapeUser (user : List Char) : String :=
  let name := escape reservedInUser (user.takeWhile (· != ':'))
  let password := escape reservedInUser ((user.dropWhile (· != ':')).drop 1)
  String.ofList (if password.isEmpty then name else name ++ ':' :: password)

/-- What stands before and after the first colon outside of brackets. -/
def splitPort (inBrackets : Bool) : List Char → List Char × Option (List Char)
  | [] => ([], none)
  | c :: rest =>
    if c = ':' ∧ !inBrackets then ([], some rest)
    else
      let (host, port) := splitPort (c == '[' || (c != ']' && inBrackets)) rest
      (c :: host, port)

/-- The port that digits name; the standard one, or no digits, is none. -/
def readPort (digits : List Char) : Except AddressError (Option Nat) :=
  if !digits.all Char.isDigit then .error .badPort
  else
    match Host.valueToBase 10 digits with
    | some n =>
      if UInt16.size ≤ n then .error .badPort
      else .ok (if digits.isEmpty ∨ n = standardPort then none else some n)
    | none => .error .badPort

/-- The step stays where it is. -/
def isHere (step : String) : Bool :=
  ["." , "%2e"].contains (String.ofList (step.toList.map Char.toLower))

/-- The step leads back to where the last one began. -/
def isBack (step : String) : Bool :=
  ["..", "%2e.", ".%2e", "%2e%2e"].contains (String.ofList (step.toList.map Char.toLower))

/-- The step is a drive, a letter with a colon or a bar. No step leads back from it. -/
def isDrive (step : String) : Bool :=
  match step.toList with
  | [letter, mark] => letter.isAlpha && (mark == ':' || mark == '|')
  | _ => false

/-- The steps, the latest first, without the latest. -/
def stepBack : List String → List String
  | [] => []
  | step :: before => if isDrive step then step :: before else before

/-- Carries out steps behind those that were made before, the latest first. A path that ends in a
step that stays or leads back ends in a slash. -/
def makeSteps (before : List String) : List String → List String
  | [] => before.reverse
  | step :: rest =>
    if isBack step then
      let before := stepBack before
      makeSteps (if rest.isEmpty then "" :: before else before) rest
    else if isHere step then makeSteps (if rest.isEmpty then "" :: before else before) rest
    else makeSteps (step :: before) rest

/-- The text in pieces between slashes. -/
def splitSteps (path : List Char) : List (List Char) :=
  (path.map fun c => if isSlash c then '/' else c).splitOn '/'

/-- The steps of a path. The slash in front of it is no part of a step. -/
def readPath (path : List Char) : List String :=
  let inside := match path with
    | c :: rest => if isSlash c then rest else path
    | [] => []
  makeSteps [] ((splitSteps inside).map fun step => String.ofList (escape reservedInPath step))

/-- What stands before the first `mark`, and what after it if there is one. -/
def splitMark (mark : Char) (cs : List Char) : List Char × Option (List Char) :=
  let after := cs.dropWhile (· != mark)
  (cs.takeWhile (· != mark), if after.isEmpty then none else some (after.drop 1))

/-- The address behind `http://`; slashes in front of it do not count. -/
def parse (text : String) : Except AddressError Address := do
  let cs := (significant text.toList).dropWhile isSlash
  let server := cs.takeWhile (!endsServer ·)
  let (user, located) := (splitUser server).getD ([], server)
  let (hostText, portText) := splitPort false located
  let host ← (Host.parse hostText).mapError .host
  let port ← readPort (portText.getD [])
  let (beforeFragment, fragment) := splitMark '#' (cs.dropWhile (!endsServer ·))
  let (path, query) := splitMark '?' beforeFragment
  pure
    { user := escapeUser user
      host
      port
      steps := readPath path
      query := query.map fun q => String.ofList (escape reservedInQuery q)
      fragment := fragment.map fun f => String.ofList (escape reservedInFragment f) }

/-- Host and port. -/
def authority (a : Address) : String :=
  a.host.text ++ (a.port.map fun n => ":" ++ toString n).getD ""

/-- What is asked for on the server: path and query. -/
def target (a : Address) : String :=
  "/" ++ String.intercalate "/" a.steps ++ (a.query.map ("?" ++ ·)).getD ""

/-- The address in full. -/
def text (a : Address) : String :=
  "http://" ++ (if a.user.isEmpty then "" else a.user ++ "@") ++ a.authority ++ a.target ++
    (a.fragment.map ("#" ++ ·)).getD ""

end Address

end PerfGate.Http
