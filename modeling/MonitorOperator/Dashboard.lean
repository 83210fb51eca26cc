import MonitorOperator.Config
import MonitorOperator.Http.Charset
import MonitorOperator.Http.Redirect
import MonitorOperator.System

/-!
# Registration with the dashboard

The dashboard learns of a cluster by a request that posts the endpoint of its API. `register` tells
three answers apart: the identifier that the dashboard gives to the endpoint, that it knows the
endpoint already, and any other.
-/

namespace MonitorOperator

open Http (Request Response Url)

/-- A dashboard, with what authorizes the operator there and how it calls the cluster. -/
structure Dashboard where
  apiUrl : String
  token : String
  label : String
  /-- How long a request may take, in seconds. -/
  timeout : Decimal.Binary64 := Decimal.Binary64.ofDecimal false 10 0
  deriving Repr

namespace Dashboard

/-- The dashboard at an address, which must not be empty. -/
def at? (apiUrl token label : String) : Except ValueProblem Dashboard :=
  if apiUrl = "" then .error .emptyDashboardUrl
  else
    .ok { apiUrl := String.ofList (Text.dropTrailing '/' apiUrl.toList), token, label }

/-- The token of a configuration: the value of the variable that it names. -/
def tokenOf (config : DashboardConfig) (environment : Environment) : String :=
  if config.tokenVariable = "" then "" else (Keyed.get? environment config.tokenVariable).getD ""

/-- The dashboard of a configuration. -/
def ofConfig (config : DashboardConfig) (environment : Environment) (label : String) :
    Except ValueProblem Dashboard :=
  at? config.apiUrl (tokenOf config environment) label

/-- The path that endpoints are posted to. -/
def credentialsPath : String := "/config/v1/kubernetes/credentials"

/-- The body that registers an endpoint. -/
def registration (dashboard : Dashboard) (endpoint : Document) : Document :=
  .ofFields
    [("label", .text dashboard.label), ("endpointUrl", endpoint), ("active", .boolean true)]

/-- The request that registers an endpoint. -/
def request (dashboard : Dashboard) (endpoint : Document) : Except Fault Request := do
  let url ← Http.checkUrl (Url.append {} (dashboard.apiUrl ++ credentialsPath))
  let asked ← Http.checkHeader s!"Api-Token {dashboard.token}"
  pure
    { method := "POST"
      url
      authorization := Http.effectiveAuthorization url none (some asked)
      body := some (dashboard.registration endpoint) }

/-- Post an endpoint. A redirect is not followed, but one that leads nowhere is a fault. -/
def post (dashboard : Dashboard) (endpoint : Document) : Task system Response := do
  let request ← liftM (dashboard.request endpoint)
  let response ← System.send request
  match response.location? with
  | none => return response
  | some location =>
      let _ ← liftM (request.redirected response.status location)
      return response

/-- The fault of a registration for a fault of its request. -/
def requestFault (fault : Fault) : Fault :=
  if fault.kind.isTransport then .dashboardUnreachable fault else fault

/-- The answer says that the endpoint is registered. -/
def knows (response : Response) : Except Fault Bool := do
  if response.status = 409 then return true
  if response.status != 400 then return false
  let text := Text.lowerAscii (← response.text)
  return Text.occursIn "already exists".toList text.toList

/-- So many characters of an unexpected answer are shown. -/
def shownLength : Nat := 200

/-- The fault of a registration for a fault in reading the identifier. -/
def identifierFault (fault : Fault) : Fault :=
  if fault.kind = .missingKey || fault.kind = .wrongKind || fault.kind.isInvalidValue then
    .dashboardId fault
  else fault

/-- The identifier in an answer. -/
def readIdentifier (response : Response) : Except Fault String := do
  return (← (← response.document).field "id").display

/-- What an answer says about an endpoint. -/
def readAnswer (endpoint : Document) (response : Response) : Except Fault String := do
  if ← knows response then throw (.dashboardKnows endpoint)
  if response.isSuccess then (readIdentifier response).mapError identifierFault
  else
    let text ← response.text
    throw (.dashboardStatus response.status (String.ofList (text.toList.take shownLength)))

/-- Register an endpoint and return the dashboard's identifier for it. -/
def register (dashboard : Dashboard) (endpoint : Document) : Task system String := do
  let response ← (dashboard.post endpoint).mapFault requestFault
  liftM (readAnswer endpoint response)

end Dashboard

end MonitorOperator
