import MonitorOperator.Http.Message

/-!
# Redirects

A response may send a request on to another place. The next request asks for a document again; it
keeps its authorization only while it stays with the server or moves to the secure form of it.
-/

namespace MonitorOperator.Http

/-- The statuses that redirect. -/
def redirectStatuses : List Int := [301, 302, 303, 307, 308]

/-- The place that a response redirects to, if it does. -/
def Response.location? (response : Response) : Option String :=
  if redirectStatuses.contains response.status then response.header? "Location" else none

/-- The fault of a location that is no URL. -/
def badLocation (problem : UrlProblem) : Fault :=
  .reported (.transport "RemoteProtocolError") s!"Invalid URL in location header: {problem.message}."

/-- The fault of too many redirects in a row. -/
def tooManyRedirects : Fault :=
  .reported (.transport "TooManyRedirects") "Exceeded maximum allowed redirects."

/-- The URL that a location names at the URL that was asked for. One that has a scheme but no host
is at the same host. -/
def redirectUrl (source : Url) (location : String) : Except Fault Url := do
  let url ← (Url.parse location).mapError badLocation
  let url ←
    if url.scheme != "" && url.host = "" then
      checkUrl (Url.ofParts url.scheme { url with host := source.host }.authority url.path
        url.query url.fragment)
    else pure url
  if url.isAbsolute then pure url else checkUrl (source.join url)

/-- The method of a request that was redirected with a status. -/
def redirectMethod (method : String) (status : Int) : String :=
  if (status = 303 || status = 302) && method != "HEAD" then "GET"
  else if status = 301 && method = "POST" then "GET"
  else method

/-- The request that follows a redirect. -/
def Request.redirected (request : Request) (status : Int) (location : String) :
    Except Fault Request := do
  let url ← redirectUrl request.url location
  let keeps := request.url.sameOrigin url || request.url.isUpgrade url
  let method := redirectMethod request.method status
  pure
    { request with
      method
      url
      authorization := if keeps then request.authorization else none
      body := if method = request.method then request.body else none }

end MonitorOperator.Http
