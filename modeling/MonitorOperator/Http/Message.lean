import MonitorOperator.Document.Reader
import MonitorOperator.Http.Url
import MonitorOperator.Text.Base64
import MonitorOperator.Text.Blank

/-!
# Requests and responses

A request goes to a URL with at most one authorization. A response has headers, whose names are the
same in any case, and a body of bytes.
-/

namespace MonitorOperator.Http

/-- A header, by name and value. -/
abbrev Header := String × String

/-- A request. -/
structure Request where
  method : String := "GET"
  url : Url
  authorization : Option String := none
  accept : String := "*/*"
  body : Option Document := none
  deriving Repr

/-- A response. -/
structure Response where
  status : Int
  headers : List Header
  body : Text.Utf8.Bytes
  deriving Repr

namespace Response

/-- The value of a header. Headers of one name count as one with all their values. -/
def header? (response : Response) (name : String) : Option String :=
  let matching := response.headers.filter fun header =>
    Text.lowerAscii header.1 == Text.lowerAscii name
  match matching with
  | [] => none
  | headers => some (String.intercalate ", " (headers.map (·.2)))

/-- The value of a header, or nothing. -/
def header (response : Response) (name : String) : String :=
  (response.header? name).getD ""

/-- The request was successful. -/
def isSuccess (response : Response) : Bool :=
  200 ≤ response.status && response.status ≤ 299

/-- The media type of the body, without its parameters. -/
def mediaType (response : Response) : String :=
  Text.trim
    (String.ofList ((response.header "Content-Type").toList.takeWhile (· != ';')))

/-- The document that the body spells. -/
def document (response : Response) : Except Fault Document :=
  Document.readBytes response.body

end Response

/-- The fault of a text that is no URL. -/
abbrev malformedUrl : Fault := .lower .malformedUrl

/-- The URL that was made, unless it is none. -/
def checkUrl (url : Except UrlProblem Url) : Except Fault Url :=
  url.mapError fun _ => malformedUrl

/-- The value of a header, which must be ASCII. -/
def checkHeader (value : String) : Except Fault String :=
  if value.toList.all fun character => character.toNat < 128 then .ok value
  else .error (.lower .unencodable)

/-- The authorization by username and password. -/
def basicAuthorization (username password : String) : String :=
  "Basic " ++ String.ofList (Text.Base64.encode (Text.Utf8.encode (username ++ ":" ++ password)))

/-- The authorization that a request is sent with: an explicit username and password, or those of
the URL, come before the one that the request asks for. -/
def effectiveAuthorization (url : Url) (basic : Option (String × String))
    (asked : Option String) : Option String :=
  match basic with
  | some (username, password) => some (basicAuthorization username password)
  | none =>
      match url.userinfoPair? with
      | some (username, password) => some (basicAuthorization username password)
      | none => asked

end MonitorOperator.Http
