import MonitorOperator.Http.Redirect
import MonitorOperator.Image
import MonitorOperator.Registry.Challenge
import MonitorOperator.Registry.Credentials
import MonitorOperator.Registry.Version
import MonitorOperator.System
import MonitorOperator.Text.Sha256

/-!
# Looking up the version of an image

`lookup` asks the registry of an image what is published under its reference. The hash is that of
the manifest which the reference names, also when this is an index of manifests for several
platforms. The version stands in a label of the image's configuration, which the manifest for the
platform names; without a label it is the tag. The registry may challenge one request; the answer to
the challenge authorizes all requests after it.

`lookup` makes its requests through the interface `registry`, which follows redirects. `resolve` is
the same lookup against the world outside.
-/

namespace MonitorOperator.Registry

open Http (Request Response Url)

/-- A request of a lookup. -/
inductive LookupRequest where
  /-- Fetch a document over HTTP, wherever redirects lead. -/
  | fetch (request : Request)
  /-- Log an event. -/
  | log (event : LogEvent)

/-- The reply to each request. -/
abbrev LookupRequest.Reply : LookupRequest → Type
  | fetch _ => Except Fault Response
  | log _ => Unit

/-- The registries. -/
abbrev registry : Interface := ⟨LookupRequest, LookupRequest.Reply⟩

/-- How versions are looked up. -/
structure LookupSettings where
  /-- The label that tells the version. -/
  versionLabel : String := "org.opencontainers.image.version"
  /-- The operating system of the platform whose configuration is read. -/
  system : String := "linux"
  /-- The architecture of that platform. -/
  architecture : String := "amd64"
  deriving Repr

/-- A repository of a registry as one lookup sees it. -/
structure Repository where
  base : Url
  image : ImageReference
  auth : Option RegistryAuth
  deriving Repr

/-- The media types of indexes. -/
def indexTypes : List String :=
  ["application/vnd.oci.image.index.v1+json",
    "application/vnd.docker.distribution.manifest.list.v2+json"]

/-- The media types that manifests are asked for in. -/
def manifestAccept : String :=
  "application/vnd.oci.image.index.v1+json, application/vnd.oci.image.manifest.v1+json, " ++
    "application/vnd.docker.distribution.manifest.list.v2+json, " ++
    "application/vnd.docker.distribution.manifest.v2+json"

/-- The media types that all else is asked for in. -/
def anyAccept : String := "*/*"

/-- Fetch a document. -/
def fetch (request : Request) : Task registry Response :=
  Task.ofProcess (.call (.fetch request) .done)

/-- Log an event. -/
def log (event : LogEvent) : Process registry Unit :=
  .call (.log event) .done

namespace Repository

/-- The request for a path of the registry. -/
def request (repository : Repository) (authorization : Option String) (path accept : String) :
    Except Fault Request := do
  let url ← Http.checkUrl (repository.base.append path)
  let asked ← authorization.mapM Http.checkHeader
  pure { url, accept, authorization := Http.effectiveAuthorization url none asked }

/-- The username and password as texts, if there are any. -/
def basicPair (repository : Repository) : Except Fault (Option (String × String)) :=
  match repository.auth with
  | none => .ok none
  | some ⟨.scalar (.text username), .scalar (.text password)⟩ => .ok (some (username, password))
  | some _ => .error .wrongKind

/-- The permission that a token is asked for. -/
def scope (repository : Repository) : String :=
  s!"repository:{repository.image.repository}:pull"

/-- The parameters of a bearer challenge that are handed on where the token is asked for. -/
def tokenParameters (repository : Repository) (parameters : Parameters) : Parameters :=
  Parameters.withDefault (Keyed.remove parameters "realm") "scope" repository.scope

/-- The URL of a place that a token is asked for at. -/
def tokenUrl (repository : Repository) (realm : String) (parameters : Parameters) :
    Except Fault Url := do
  let place ← Http.checkUrl (repository.base.append realm)
  Http.checkUrl (place.withQuery (repository.tokenParameters parameters))

/-- The request for the token that a bearer challenge wants. -/
def tokenRequest (repository : Repository) (parameters : Parameters) : Except Fault Request := do
  let realm := (Keyed.get? parameters "realm").getD ""
  if realm = "" then throw (.registry .missingRealm)
  let basic ← repository.basicPair
  let url ← repository.tokenUrl realm parameters
  pure { url, authorization := Http.effectiveAuthorization url basic none }

/-- The token in the answer to a request for one. -/
def readToken (response : Response) : Except Fault String := do
  if !response.isSuccess then throw (.registry (.tokenStatus response.status))
  let body ← response.document
  let token := (← body.lookupOrNull "token").orElse (← body.lookupOrNull "access_token")
  if token.truthy then pure token.display else throw (.registry .missingToken)

/-- The authorization that answers a challenge. -/
def answer (repository : Repository) (challenge : Challenge) : Task registry String := do
  match challenge with
  | .basic =>
      match repository.auth with
      | some auth => pure (Http.basicAuthorization auth.username.display auth.password.display)
      | none => throw (.registry (.credentialsRequired repository.image.registry))
  | .bearer parameters =>
      let response ← fetch (← liftM (repository.tokenRequest parameters))
      return "Bearer " ++ (← liftM (readToken response))
  | .unknown text => throw (.registry (.challenge text))

/-- The response, if it is a success. -/
def checked (path : String) (response : Response) : Except Fault Response :=
  if response.isSuccess then .ok response else .error (.registry (.status response.status path))

/-- Get a path of the registry with the authorization of the lookup so far, if there is one. The
first challenge of a lookup is answered, and the request made again. Returns the response with the
authorization for the requests to come. -/
def get (repository : Repository) (authorization : Option String) (path accept : String) :
    Task registry (Response × Option String) := do
  let response ← fetch (← liftM (repository.request authorization path accept))
  if response.status = 401 && authorization.isNone then
    let authorization ← repository.answer (.read (response.header "WWW-Authenticate"))
    let response ← fetch (← liftM (repository.request (some authorization) path accept))
    return (← liftM (checked path response), some authorization)
  else
    return (← liftM (checked path response), authorization)

/-- The path of a manifest. -/
def manifestPath (repository : Repository) (reference : String) : String :=
  s!"/v2/{repository.image.repository}/manifests/{reference}"

/-- The path of a blob. -/
def blobPath (repository : Repository) (digest : String) : String :=
  s!"/v2/{repository.image.repository}/blobs/{digest}"

/-- Get a manifest. -/
def getManifest (repository : Repository) (authorization : Option String) (reference : String) :
    Task registry (Response × Option String) :=
  repository.get authorization (repository.manifestPath reference) manifestAccept

/-- Get a blob. -/
def getBlob (repository : Repository) (authorization : Option String) (digest : String) :
    Task registry (Response × Option String) :=
  repository.get authorization (repository.blobPath digest) anyAccept

end Repository

/-- The digest of a manifest: the one that the registry tells, else the hash of the body. -/
def digestOf (response : Response) : String :=
  match response.header "Docker-Content-Digest" with
  | "" => "sha256:" ++ Text.Sha256.hexHash response.body
  | digest => digest

/-- The manifest is an index of others, by its media type or by its own word. -/
def isIndex (mediaType : String) (manifest : Document) : Except Fault Bool := do
  if indexTypes.contains mediaType then return true
  let kind ← (← manifest.lookupOrNull "mediaType").toKey
  return indexTypes.any fun name => kind.agrees (.text name)

/-- An entry of an index is for the platform. -/
def isForPlatform (settings : LookupSettings) (entry : Document) : Except Fault Bool := do
  let platform := (← entry.lookupOrNull "platform").orElse (.object [])
  let system ← platform.lookupOrNull "os"
  let architecture ← platform.lookupOrNull "architecture"
  return system.agrees (.text settings.system) &&
    architecture.agrees (.text settings.architecture)

/-- The digest of the first entry for the platform. -/
def selectEntry (settings : LookupSettings) (image : Document) :
    List Document → Except Fault String
  | [] => .error (.registry (.platform image settings.system settings.architecture))
  | entry :: entries => do
      if ← isForPlatform settings entry then return (← entry.field "digest").display
      else selectEntry settings image entries

/-- The digest of the manifest for the platform. -/
def selectPlatform (settings : LookupSettings) (image index : Document) : Except Fault String := do
  let entries := (← index.lookupOrNull "manifests").orElse (.list [])
  selectEntry settings image (← entries.elements)

/-- The digest of the image's configuration, from its manifest. -/
def configDigest (manifest : Document) : Except Fault String := do
  return (← (← manifest.field "config").field "digest").display

/-- The digest of what the reference names, and the configuration of the image. -/
def readImage (settings : LookupSettings) (image : Document) (repository : Repository) :
    Task registry (String × Document) := do
  let (response, authorization) ← repository.getManifest none repository.image.reference
  let manifest ← liftM response.document
  let (manifest, authorization) ←
    if ← liftM (isIndex response.mediaType manifest) then
      let digest ← liftM (selectPlatform settings image manifest)
      let (response, authorization) ← repository.getManifest authorization digest
      pure (← liftM response.document, authorization)
    else pure (manifest, authorization)
  let digest ← liftM (configDigest manifest)
  let (config, _) ← repository.getBlob authorization digest
  return (digestOf response, ← liftM config.document)

/-- The fault of a lookup for a fault on its way: a request that failed, or an answer that is not
what a registry answers. -/
def lookupFault (image : Document) (fault : Fault) : Fault :=
  if fault.kind.isTransport then .unreachable image fault
  else if fault.kind = .missingKey || fault.kind = .wrongKind || fault.kind.isInvalidValue then
    .unexpectedAnswer image fault
  else fault

/-- The version of an image, from its configuration: the label, else the tag, else the reference. -/
def versionOf (settings : LookupSettings) (reference : ImageReference) (config : Document) :
    Except Fault Document := do
  let inner := (← config.lookupOrNull "config").orElse (.object [])
  let labels := (← inner.lookupOrNull "Labels").orElse (.object [])
  let label ← labels.lookupOrNull settings.versionLabel
  let tag : Document := .text (reference.tag.getD "")
  pure ((label.orElse tag).orElse (.text reference.reference))

/-- The reference of an image, which must be readable. -/
def readReference (image : Document) : Except Fault ImageReference :=
  (ImageReference.ofDocument image).mapError fun fault =>
    if fault.kind.isInvalidValue then .reference fault else fault

/-- The repository of an image, with the credentials for its registry. -/
def repositoryOf (reference : ImageReference) (credentials : Option Credentials) :
    Except Fault Repository := do
  let base ← Http.checkUrl (Url.parse s!"https://{reference.apiHost}")
  pure
    { base := ← Http.checkUrl base.asBase
      image := reference
      auth := credentials.bind fun credentials => credentials.forRegistry reference.registry }

/-- The logger of the lookups. -/
def lookupLogger : Logger := .of "version.resolver"

/-- Look up what is published under the reference of an image. -/
def lookup (settings : LookupSettings) (image : Document) (credentials : Option Credentials) :
    Task registry VersionRecord := do
  let reference ← liftM (readReference image)
  let repository ← liftM (repositoryOf reference credentials)
  let (digest, config) ←
    (readImage settings image repository).mapFault (lookupFault image)
  let version ← liftM (versionOf settings reference config)
  liftM (log (lookupLogger.event .debug "image_version_resolved"
    [("image", image), ("version", version), ("hash", .text digest)]))
  return { version, hash := .text digest }

/-- The most requests that a fetch may make, with one for each redirect. -/
def fetchLimit : Nat := 21

/-- Send a request and follow redirects, with so many requests at most. -/
def follow : (limit : Nat) → Request → Task system Response
  | 0, _ => throw Http.tooManyRedirects
  | limit + 1, request => do
      let response ← System.send request
      match response.location? with
      | none => return response
      | some location =>
          follow limit (← liftM (request.redirected response.status location))

/-- Answer a request of a lookup from the world outside. -/
def serve : (request : LookupRequest) → Process system request.Reply
  | .fetch request => (follow fetchLimit request).outcome
  | .log event => System.log event

/-- Look up what is published under the reference of an image, in the world outside. -/
def resolve (settings : LookupSettings) (image : Document) (credentials : Option Credentials) :
    Task system VersionRecord :=
  Task.ofProcess ((lookup settings image credentials).outcome.interpret serve)

end MonitorOperator.Registry
