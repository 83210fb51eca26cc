import MonitorOperator.Decimal.Reader
import MonitorOperator.Http.Address
import MonitorOperator.Http.Percent
import MonitorOperator.Text.Quoted

/-!
# URLs

`Url.parse` reads a URL into its parts, each in a normal form: scheme and host in lower case, no
default port, no dot segments in an absolute path, and everything escaped that must be. `append`
resolves a path under a base, `resolve` a reference against the URL that it was found at.
-/

namespace MonitorOperator.Http

/-- Why a text is no URL. -/
inductive UrlProblem where
  | tooLong
  | control (character : Char) (position : Nat)
  | ipv4 (host : String)
  | ipv6 (host : String)
  | port (text : String)
  | authorityPath
  | doubleSlash
  | leadingColon
  deriving Repr

/-- The wording of a problem with a URL. -/
def UrlProblem.message : UrlProblem → String
  | tooLong => "URL too long"
  | control character position =>
      "Invalid non-printable ASCII character in URL, " ++
        s!"{Text.quoted (String.ofList [character])} at position {position}."
  | ipv4 host => s!"Invalid IPv4 address: {Text.quoted host}"
  | ipv6 host => s!"Invalid IPv6 address: {Text.quoted host}"
  | port text => s!"Invalid port: {Text.quoted text}"
  | authorityPath => "For absolute URLs, path must be empty or begin with '/'"
  | doubleSlash => "Relative URLs cannot have a path starting with '//'"
  | leadingColon => "Relative URLs cannot have a path starting with ':'"

/-- A URL in its parts. What is not there is empty, or nothing where that differs from empty. -/
structure Url where
  scheme : String := ""
  userinfo : String := ""
  host : String := ""
  port : Option Int := none
  path : String := ""
  query : Option String := none
  fragment : Option String := none
  deriving DecidableEq, Repr

namespace Url

/-- The greatest length of a URL. -/
def lengthLimit : Nat := 65536

/-- The character may stand in a fragment. -/
def allowedInFragment (character : Char) : Bool :=
  0x21 ≤ character.toNat && character.toNat ≤ 0x7E &&
    !(character == Text.quotationMark || character == '<' || character == '>' ||
      character.toNat == 0x60)

/-- The character may stand in a query. -/
def allowedInQuery (character : Char) : Bool :=
  0x21 ≤ character.toNat && character.toNat ≤ 0x7E &&
    !(character == Text.quotationMark || character == '#' || character == '<' || character == '>')

/-- The character may stand in a path. -/
def allowedInPath (character : Char) : Bool :=
  allowedInQuery character &&
    !(character == '?' || character.toNat == 0x60 || character.toNat == 0x7B ||
      character.toNat == 0x7D)

/-- The character may stand in the name of a host. -/
def allowedInHost (character : Char) : Bool :=
  "!$&()*+,;=%|".toList.contains character || character == Text.apostrophe ||
    character == Text.quotationMark || character == Text.backslash || character.toNat == 0x60 ||
    character.toNat == 0x7B || character.toNat == 0x7D

/-- Escape what may not stand in a part of a URL. -/
def escaped (allowed : Char → Bool) (text : String) : String :=
  String.ofList (Percent.encode allowed text.toList)

/-- The host in its normal form. A name outside ASCII is kept as it is. -/
def normalHost (host : String) : Except UrlProblem String :=
  if Address.looksLikeIpv4 host.toList then
    if Address.isIpv4 host.toList then .ok host else .error (.ipv4 host)
  else
    match Address.bracketed? host.toList with
    | some inside =>
        if Address.isIpv6 inside then .ok (String.ofList inside) else .error (.ipv6 host)
    | none =>
        let lower := Text.lowerAscii host
        if lower.toList.all fun character => character.toNat < 128 then
          .ok (escaped allowedInHost lower)
        else .ok lower

/-- The port that a scheme uses when none is given. -/
def defaultPort? (scheme : String) : Option Int :=
  match scheme with
  | "ftp" => some 21
  | "http" | "ws" => some 80
  | "https" | "wss" => some 443
  | _ => none

/-- The port that a text gives, unless it is the scheme's own. -/
def normalPort (scheme text : String) : Except UrlProblem (Option Int) :=
  if text = "" then .ok none
  else
    match Decimal.readInteger text with
    | .integer port => .ok (if defaultPort? scheme = some port then none else some port)
    | _ => .error (.port text)

/-- The segments of a path with those resolved that stand for the same or the upper level. -/
def resolveSegments : (output segments : List (List Char)) → List (List Char)
  | output, [] => output
  | output, segment :: segments =>
      if segment = ['.'] then resolveSegments output segments
      else if segment = ['.', '.'] then
        resolveSegments (if output = [[]] then output else output.dropLast) segments
      else resolveSegments (output ++ [segment]) segments

/-- A path without dot segments. -/
def normalPath (path : String) : String :=
  let segments := Text.splitOn '/' path.toList
  if segments.any fun segment => segment == ['.'] || segment == ['.', '.'] then
    String.ofList (Text.joinWith ['/'] (resolveSegments [] segments))
  else path

/-- The path may stand after what comes before it. -/
def checkPath (path : String) (hasScheme hasAuthority : Bool) : Except UrlProblem Unit :=
  if hasAuthority && path != "" && path.toList.head? != some '/' then .error .authorityPath
  else if !hasScheme && !hasAuthority then
    if (Text.dropPattern? "//".toList path.toList).isSome then .error .doubleSlash
    else if path.toList.head? = some ':' then .error .leadingColon
    else .ok ()
  else .ok ()

/-- The userinfo, host and port of an authority. -/
def splitAuthority (authority : List Char) : List Char × List Char × List Char :=
  let backwards := authority.reverse
  let afterUser := (backwards.takeWhile (· != '@')).reverse
  let user :=
    match backwards.dropWhile (· != '@') with
    | _ :: rest => rest.reverse
    | [] => []
  let (host, rest) := Address.splitHost afterUser
  let port :=
    match rest with
    | ':' :: port => port
    | port => port
  (user, host, port)

/-- No part of a URL may be longer than the whole. -/
def checkLengths (scheme authority path : String) (query fragment : Option String) :
    Except UrlProblem Unit :=
  let parts := [scheme, authority, path, query.getD "", fragment.getD ""]
  if parts.any fun part => lengthLimit < part.toList.length then .error .tooLong else .ok ()

/-- The URL that unnormalized parts make. -/
def ofParts (scheme authority path : String) (query fragment : Option String) :
    Except UrlProblem Url := do
  checkLengths scheme authority path query fragment
  let (user, host, port) := splitAuthority authority.toList
  let normal := Text.lowerAscii scheme
  let host ← normalHost (String.ofList host)
  let port ← normalPort normal (String.ofList port)
  let hasScheme := normal != ""
  let hasAuthority := !user.isEmpty || host != "" || port.isSome
  checkPath path hasScheme hasAuthority
  let path := if hasScheme || hasAuthority then normalPath path else path
  pure
    { scheme := normal
      userinfo := String.ofList user
      host
      port
      path := escaped allowedInPath path
      query := query.map (escaped allowedInQuery)
      fragment := fragment.map (escaped allowedInFragment) }

/-- The scheme that characters begin with, and what follows its colon. -/
def splitScheme (characters : List Char) : List Char × List Char :=
  let isInner := fun character : Char =>
    character.isAlphanum || character == '+' || character == '.' || character == '-'
  let candidate := characters.takeWhile isInner
  match characters.dropWhile isInner with
  | ':' :: rest =>
      if candidate.head?.all Char.isAlpha then (candidate, rest) else ([], characters)
  | _ => ([], characters)

/-- What stands before and after a mark; nothing stands after a mark that is missing. -/
def splitMark (mark : Char) (characters : List Char) : List Char × Option String :=
  match Text.cutAt [mark] characters with
  | some (before, after) => (before, some (String.ofList after))
  | none => (characters, none)

/-- Read a URL. -/
def parse (text : String) : Except UrlProblem Url :=
  let characters := text.toList
  let isControl := fun character : Char => character.toNat < 32 || character.toNat = 127
  if lengthLimit < characters.length then .error .tooLong
  else
    match characters.find? isControl with
    | some character => .error (.control character (characters.findIdx isControl))
    | none =>
        let (rest, fragment) := splitMark '#' characters
        let (rest, query) := splitMark '?' rest
        let (scheme, rest) := splitScheme rest
        let (authority, path) :=
          match Text.dropPattern? "//".toList rest with
          | some after => (after.takeWhile (· != '/'), after.dropWhile (· != '/'))
          | none => ([], rest)
        ofParts (String.ofList scheme) (String.ofList authority) (String.ofList path) query fragment

/-- The URL says where it leads without a base. -/
def isAbsolute (url : Url) : Bool :=
  url.scheme != "" && url.host != ""

/-- The authority as a URL has it. -/
def authority (url : Url) : String :=
  let host := if url.host.toList.contains ':' then "[" ++ url.host ++ "]" else url.host
  (if url.userinfo = "" then "" else url.userinfo ++ "@") ++ host ++
    (match url.port with
      | some port => ":" ++ Text.ofInt port
      | none => "")

/-- The path, or the root, and the query. -/
def target (url : Url) : String :=
  (if url.path = "" then "/" else url.path) ++
    (match url.query with
      | some query => "?" ++ query
      | none => "")

/-- The URL as text. -/
def toText (url : Url) : String :=
  (if url.scheme = "" then "" else url.scheme ++ ":") ++
    (if url.authority = "" then "" else "//" ++ url.authority) ++ url.path ++
    (match url.query with
      | some query => "?" ++ query
      | none => "") ++
    (match url.fragment with
      | some fragment => "#" ++ fragment
      | none => "")

/-- The URL with another path and query. -/
def withTarget (url : Url) (target : String) : Except UrlProblem Url :=
  let (path, query) := splitMark '?' target.toList
  ofParts url.scheme url.authority (String.ofList path) query url.fragment

/-- The URL with another query. -/
def withQuery (url : Url) (pairs : List (String × String)) : Except UrlProblem Url := do
  let query := if pairs.isEmpty then none else some (String.ofList (Percent.encodePairs pairs))
  checkLengths url.scheme url.authority url.path query url.fragment
  pure { url with query }

/-- The base of the URLs below a URL: its path ends in a slash. -/
def asBase (url : Url) : Except UrlProblem Url :=
  if url.target.toList.getLast? = some '/' then .ok url else url.withTarget (url.target ++ "/")

/-- The URL that a reference names below a base. An absolute reference stands for itself. -/
def append (base : Url) (reference : String) : Except UrlProblem Url := do
  let url ← parse reference
  if url.isAbsolute then pure url
  else
    base.withTarget (base.target ++ String.ofList (url.target.toList.dropWhile (· == '/')))

/-- The segments of a relative path put after those of the base, resolved. -/
def resolvePath (base path : List Char) : List Char :=
  let baseSegments :=
    match (Text.splitOn '/' base).reverse with
    | [] :: rest => ([] :: rest).reverse
    | _ :: rest => rest.reverse
    | [] => []
  let segments :=
    if path.head? = some '/' then Text.splitOn '/' path
    else
      let joined := baseSegments ++ Text.splitOn '/' path
      match joined with
      | first :: rest =>
          first :: (rest.dropLast.filter fun segment => !segment.isEmpty) ++ rest.getLast?.toList
      | [] => []
  let last := segments.getLast?.getD []
  let resolved := segments.foldl
    (fun output segment =>
      if segment = ['.', '.'] then output.dropLast
      else if segment = ['.'] then output
      else output ++ [segment]) []
  let resolved := if last = ['.'] || last = ['.', '.'] then resolved ++ [[]] else resolved
  match Text.joinWith ['/'] resolved with
  | [] => ['/']
  | path => path

/-- A path and the parameters that a semicolon cuts off its last segment. -/
def splitParameters (path : List Char) : List Char × List Char :=
  let backwards := path.reverse
  let last := (backwards.takeWhile (· != '/')).reverse
  let before := (backwards.dropWhile (· != '/')).reverse
  match Text.cutAt [';'] last with
  | some (segment, parameters) => (before ++ segment, parameters)
  | none => (path, [])

/-- A path with parameters, unless they are empty. -/
def withParameters (path parameters : List Char) : String :=
  String.ofList (if parameters.isEmpty then path else path ++ ';' :: parameters)

/-- The URL that a reference without scheme or host names at the place where it was found. -/
def join (base reference : Url) : Except UrlProblem Url :=
  let (path, parameters) := splitParameters reference.path.toList
  let (basePath, baseParameters) := splitParameters base.path.toList
  if reference.scheme != "" && reference.scheme != base.scheme then parse reference.toText
  else if reference.authority != "" then
    ofParts base.scheme reference.authority (withParameters path parameters) reference.query
      reference.fragment
  else if path.isEmpty && parameters.isEmpty then
    let query :=
      match reference.query.filter (· != "") with
      | some query => some query
      | none => base.query
    ofParts base.scheme base.authority (withParameters basePath baseParameters) query
      reference.fragment
  else
    ofParts base.scheme base.authority
      (withParameters (resolvePath basePath path) parameters) reference.query reference.fragment

/-- The port that the URL leads to. -/
def effectivePort (url : Url) : Option Int :=
  match url.port with
  | some port => some port
  | none =>
      match url.scheme with
      | "http" => some 80
      | "https" => some 443
      | _ => none

/-- The two URLs lead to one server. -/
def sameOrigin (left right : Url) : Bool :=
  left.scheme == right.scheme && left.host == right.host &&
    left.effectivePort == right.effectivePort

/-- The second URL is the secure form of the first one's server. -/
def isUpgrade (source destination : Url) : Bool :=
  source.host == destination.host && source.scheme == "http" &&
    source.effectivePort == some 80 && destination.scheme == "https" &&
    destination.effectivePort == some 443

/-- The server and the unescaped path that the URL leads to. -/
def location (url : Url) : String :=
  let port :=
    match url.port with
    | some port => ":" ++ Text.ofInt port
    | none => ""
  let path := if url.path = "" then "/" else Percent.decode url.path.toList
  url.scheme ++ "://" ++ url.host ++ port ++ path

/-- The names and values of the query. -/
def queryPairs (url : Url) : List (String × String) :=
  match url.query with
  | some query => Percent.decodePairs query.toList
  | none => []

/-- The username and password that the URL gives, if it gives any. -/
def userinfoPair? (url : Url) : Option (String × String) :=
  if url.userinfo = "" then none
  else
    let (username, password) := splitMark ':' url.userinfo.toList
    let username := Percent.decode username
    let password := Percent.decode (password.getD "").toList
    if username = "" && password = "" then none else some (username, password)

end Url

end MonitorOperator.Http
