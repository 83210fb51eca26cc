import MonitorOperator.Document.Display

/-!
# Faults

Everything that can go wrong, by its cause. `Fault.kind` sorts faults into the classes that callers
tell apart, and `Fault.message` words them. A fault whose wording belongs to a layer below this
library is shown by the name of its kind in angle brackets.
-/

namespace MonitorOperator

/-- The classes of faults that callers tell apart. The first nine are the engine's own. -/
inductive FaultKind where
  /-- An engine fault of no narrower class. -/
  | engine
  /-- The requested object does not exist. -/
  | notFound
  /-- A write was based on a stale read. -/
  | conflict
  /-- A provisioning step failed. -/
  | provisioning
  /-- The workload could not be built, read or written. -/
  | workload
  /-- The status could not be written. -/
  | statusPersist
  /-- The published version could not be resolved. -/
  | versionLookup
  /-- The endpoint could not be registered with the dashboard. -/
  | dashboardRegistration
  /-- The endpoint is registered with the dashboard already. -/
  | dashboardAlreadyRegistered
  /-- The API server refused a call. -/
  | api
  /-- An HTTP exchange failed; the name tells how. -/
  | transport (name : String)
  /-- A value has the right kind but is not acceptable. -/
  | invalidValue
  /-- An object lacks a field. -/
  | missingKey
  /-- A fault of a collaborator that is none of the others. -/
  | runtime
  /-- The operating system refused an operation. -/
  | system
  /-- A value has the wrong kind for an operation. -/
  | wrongKind
  /-- A value does not have the operation asked for. -/
  | noSuchMember
  /-- A result is too large. -/
  | outOfRange
  /-- A document is nested too deeply. -/
  | tooDeep
  /-- Bytes are not well-formed in their encoding. -/
  | undecodable
  /-- A text has no form in the encoding it must have. -/
  | unencodable
  /-- Bytes do not tell the order that their encoding needs. -/
  | unmarked
  /-- A text is not JSON. -/
  | malformedJson
  /-- A text is not Base64. -/
  | malformedBase64
  /-- A text is not a URL. -/
  | malformedUrl
  /-- A condition that should always hold does not. -/
  | brokenAssumption
  deriving DecidableEq, Repr

namespace FaultKind

/-- The fault is one of the engine's own. -/
def isEngine : FaultKind → Bool
  | engine | notFound | conflict | provisioning | workload | statusPersist | versionLookup
  | dashboardRegistration | dashboardAlreadyRegistered => true
  | _ => false

/-- The fault is about a value that is not acceptable, in any of its narrower classes. -/
def isInvalidValue : FaultKind → Bool
  | invalidValue | undecodable | unencodable | unmarked | malformedJson | malformedBase64 => true
  | _ => false

/-- The fault is that of an HTTP exchange. -/
def isTransport : FaultKind → Bool
  | transport _ => true
  | _ => false

/-- The public name of a class of faults. -/
def name : FaultKind → String
  | engine => "KubemonError"
  | notFound => "NotFoundError"
  | conflict => "ConflictError"
  | provisioning => "ProvisioningError"
  | workload => "WorkloadError"
  | statusPersist => "StatusPersistError"
  | versionLookup => "VersionLookupError"
  | dashboardRegistration => "DashboardRegistrationError"
  | dashboardAlreadyRegistered => "DashboardAlreadyRegisteredError"
  | api => "ApiException"
  | transport name => name
  | invalidValue => "ValueError"
  | missingKey => "KeyError"
  | runtime => "RuntimeError"
  | system => "OSError"
  | wrongKind => "TypeError"
  | noSuchMember => "AttributeError"
  | outOfRange => "OverflowError"
  | tooDeep => "RecursionError"
  | undecodable => "UnicodeDecodeError"
  | unencodable => "UnicodeEncodeError"
  | unmarked => "UnicodeError"
  | malformedJson => "JSONDecodeError"
  | malformedBase64 => "Error"
  | malformedUrl => "InvalidURL"
  | brokenAssumption => "AssertionError"

/-- The wording of faults of this class belongs to a layer below, so messages show the name of the
class instead. -/
def isOpaque : FaultKind → Bool
  | wrongKind | noSuchMember | outOfRange | tooDeep | undecodable | unencodable | unmarked
  | malformedJson | malformedBase64 | malformedUrl | brokenAssumption => true
  | _ => false

end FaultKind

/-- Why a value of the right kind is not acceptable. -/
inductive ValueProblem where
  /-- A text, shown quoted, is not an integer. -/
  | notInteger (text : String)
  /-- A text has more digits than an integer may be written with. -/
  | tooManyDigits (count : Nat)
  /-- What is no number has no integer part. -/
  | undefinedInteger
  /-- A text is not a number. -/
  | notNumber (text : String)
  /-- An item that should be a pair has another length. -/
  | notPair (index length : Nat)
  /-- A text that should be ASCII is not. -/
  | notAscii
  /-- A text does not begin with a timestamp. -/
  | notTimestamp (text : String)
  /-- Something follows a timestamp. -/
  | afterTimestamp (rest : String)
  /-- The month has no such day. -/
  | dayOutOfMonth
  /-- A minute has no such second. -/
  | secondOutOfMinute
  /-- The calendar has no such year. -/
  | yearOutOfCalendar (year : Nat)
  /-- A manifest names no image. -/
  | missingImage (name : Document)
  /-- An image reference is empty, incomplete or surrounded by blanks. -/
  | imageReference (reference : Document)
  /-- A timeout is shorter than allowed. -/
  | shortTimeout (setting least actual : String)
  /-- A level of logging does not exist. -/
  | logLevel (level : String)
  /-- The dashboard has no address. -/
  | emptyDashboardUrl
  deriving Repr

/-- The wording of a problem with a value. -/
def ValueProblem.message : ValueProblem → String
  | notInteger text =>
      "invalid literal for int() with base 10: " ++
        String.ofList ((Text.quoted text).toList.take 200)
  | tooManyDigits count =>
      s!"Exceeds the limit (4300 digits) for integer string conversion: value has {count} digits; "
        ++ "use sys.set_int_max_str_digits() to increase the limit"
  | undefinedInteger => "cannot convert float NaN to integer"
  | notNumber text => "could not convert string to float: " ++ Text.quoted text
  | notPair index length =>
      s!"dictionary update sequence element #{index} has length {length}; 2 is required"
  | notAscii => "string argument should contain only ASCII characters"
  | notTimestamp text =>
      s!"time data {Text.quoted text} does not match format '%Y-%m-%dT%H:%M:%SZ'"
  | afterTimestamp rest => s!"unconverted data remains: {rest}"
  | dayOutOfMonth => "day is out of range for month"
  | secondOutOfMinute => "second must be in 0..59"
  | yearOutOfCalendar year => s!"year {year} is out of range"
  | missingImage name => s!"KubeMon {name.literal} has no spec.image"
  | imageReference reference => s!"invalid image reference: {reference.literal}"
  | shortTimeout setting least actual => s!"{setting} must be >= {least}, got {actual}"
  | logLevel level =>
      s!"Invalid log level: {level}. Must be one of debug, error, info, warning"
  | emptyDashboardUrl => "Dashboard api_url must not be empty"

/-- Why the registry does not tell a version, when no other fault is behind it. -/
inductive RegistryProblem where
  /-- The registry answered a request for a path with an unsuccessful status. -/
  | status (code : Int) (path : String)
  /-- The registry asks for credentials and there are none. -/
  | credentialsRequired (registry : String)
  /-- The registry challenges in a way that is not known. -/
  | challenge (text : String)
  /-- A bearer challenge names no place to get a token. -/
  | missingRealm
  /-- The token endpoint answered with an unsuccessful status. -/
  | tokenStatus (code : Int)
  /-- The token endpoint answered without a token. -/
  | missingToken
  /-- No entry of an index is for the platform. -/
  | platform (image : Document) (system architecture : String)
  /-- A fixed table does not know the image. -/
  | unknownImage (image : Document)
  deriving Repr

/-- The wording of a problem with a registry. -/
def RegistryProblem.message : RegistryProblem → String
  | status code path => s!"registry returned {code} for {path}"
  | credentialsRequired registry => s!"registry {registry} requires credentials"
  | challenge text => s!"unsupported registry auth challenge: {Text.quoted text}"
  | missingRealm => "bearer challenge without realm"
  | tokenStatus code => s!"token endpoint returned {code}"
  | missingToken => "token endpoint returned no token"
  | platform image system architecture =>
      s!"image {image.display} has no {system}/{architecture} manifest"
  | unknownImage image => s!"no version known for image {image.literal}"

/-- A fault, by its cause. -/
inductive Fault where
  /-- A fault of a collaborator in its own words. -/
  | reported (kind : FaultKind) (text : String)
  /-- A fault in the words of a layer below this library. -/
  | lower (kind : FaultKind)
  /-- The API server refused a call. -/
  | refused (code reason : Document)
  /-- An object lacks a field. -/
  | missingKey (key : Scalar)
  /-- A value is not acceptable. -/
  | value (problem : ValueProblem)
  /-- An object of the cluster does not exist. -/
  | absent (what : String)
  /-- The API server rejected a write because the object has changed. -/
  | stale (what reason : String)
  /-- The API server refused a call for any other reason. -/
  | rejected (kind : FaultKind) (what : String) (code : Document) (reason : String)
  /-- A provisioning step failed. -/
  | provisioning (step : String) (cause : Fault)
  /-- The workload step failed in a way that is not the engine's own. -/
  | workload (cause : Fault)
  /-- An instance has no identity to link ownership to. -/
  | missingOwner (scope name : String)
  /-- The API server answered with something that is not an object. -/
  | payload (kindName : String)
  /-- The namespace that identifies the cluster has no identity. -/
  | missingClusterId (scope : String)
  /-- The status step failed in a way that is not the engine's own. -/
  | status (cause : Fault)
  /-- An image reference names no version to look up. -/
  | reference (cause : Fault)
  /-- A request to the registry of an image did not come through. -/
  | unreachable (image : Document) (cause : Fault)
  /-- The registry of an image answered with something unexpected. -/
  | unexpectedAnswer (image : Document) (cause : Fault)
  /-- The registry does not tell a version. -/
  | registry (problem : RegistryProblem)
  /-- A docker config is not a document. -/
  | dockerConfig (cause : Fault)
  /-- An entry of a docker config does not decode. -/
  | dockerEntry (server : String) (cause : Fault)
  /-- A request to the dashboard did not come through. -/
  | dashboardUnreachable (cause : Fault)
  /-- The dashboard knows the endpoint. -/
  | dashboardKnows (endpoint : Document)
  /-- The dashboard answered with an unsuccessful status. -/
  | dashboardStatus (code : Int) (start : String)
  /-- The dashboard answered without an identifier. -/
  | dashboardId (cause : Fault)
  deriving Repr

namespace Fault

/-- The class of a fault. -/
def kind : Fault → FaultKind
  | reported kind _ => kind
  | lower kind => kind
  | refused .. => .api
  | missingKey _ => .missingKey
  | value _ => .invalidValue
  | absent _ => .notFound
  | stale .. => .conflict
  | rejected kind .. => kind
  | provisioning .. => .provisioning
  | workload _ => .workload
  | missingOwner .. => .workload
  | payload _ => .workload
  | missingClusterId _ => .engine
  | status _ => .statusPersist
  | reference _ => .versionLookup
  | unreachable .. => .versionLookup
  | unexpectedAnswer .. => .versionLookup
  | registry _ => .versionLookup
  | dockerConfig _ => .versionLookup
  | dockerEntry .. => .versionLookup
  | dashboardUnreachable _ => .dashboardRegistration
  | dashboardKnows _ => .dashboardAlreadyRegistered
  | dashboardStatus .. => .dashboardRegistration
  | dashboardId _ => .dashboardRegistration

/-- The wording of a fault. -/
def message : Fault → String
  | reported kind text => if kind.isOpaque then s!"<{kind.name}>" else text
  | lower kind => s!"<{kind.name}>"
  | refused code reason => s!"({code.display})\nReason: {reason.display}\n"
  | missingKey key => key.literal
  | value problem => problem.message
  | absent what => s!"{what} not found"
  | stale what reason => s!"{what}: conflict ({reason})"
  | rejected _ what code reason => s!"{what}: API error {code.display} ({reason})"
  | provisioning step cause => s!"Provisioning step '{step}' failed: {cause.message}"
  | workload cause => s!"could not reconcile stateful set: {cause.message}"
  | missingOwner scope name => s!"KubeMon {scope}/{name} has no uid; cannot set owner reference"
  | payload kindName => s!"unexpected statefulset payload: {kindName}"
  | missingClusterId scope => s!"namespace {scope} has no uid"
  | status cause => s!"could not persist status: {cause.message}"
  | reference cause => cause.message
  | unreachable image cause => s!"registry request for {image.display} failed: {cause.message}"
  | unexpectedAnswer image cause =>
      s!"unexpected registry response for {image.display}: {cause.message}"
  | registry problem => problem.message
  | dockerConfig cause => s!"invalid docker config: {cause.message}"
  | dockerEntry server cause => s!"invalid auth entry for {server}: {cause.message}"
  | dashboardUnreachable cause => s!"dashboard request failed: {cause.message}"
  | dashboardKnows endpoint => s!"endpoint {endpoint.display} is already registered"
  | dashboardStatus code start => s!"dashboard returned {code}: {start}"
  | dashboardId cause => s!"dashboard response carried no id: {cause.message}"

/-- The provisioning step that failed, if the fault is about one. -/
def step? : Fault → Option String
  | provisioning step _ => some step
  | _ => none

/-- A value has the wrong kind for an operation. -/
abbrev wrongKind : Fault := .lower .wrongKind

/-- A value does not have the operation asked for. -/
abbrev noSuchMember : Fault := .lower .noSuchMember

end Fault

end MonitorOperator
