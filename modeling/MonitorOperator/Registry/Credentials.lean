import MonitorOperator.Document.Reader
import MonitorOperator.Text.Base64
import MonitorOperator.Text.Cut
import MonitorOperator.Text.Keyed

/-!
# Registry credentials

A pull secret holds a docker config, a document that gives a username and a password for each
registry. `ofDockerConfig` reads it, bringing the servers' addresses to bare host names, and
`forRegistry` finds the entry for the registry of an image. Docker Hub goes by several names.
-/

namespace MonitorOperator

/-- The username and password for one registry. A config may give them any value. -/
structure RegistryAuth where
  username : Document
  password : Document
  deriving Repr

/-- Usernames and passwords by host. -/
structure Credentials where
  entries : Keyed RegistryAuth := []
  deriving Repr

/-- A docker config as it comes: as text, as bytes, or read already. -/
inductive DockerConfig where
  | text (value : String)
  | bytes (value : Text.Utf8.Bytes)
  | document (value : Document)

namespace Credentials

/-- The names of Docker Hub. -/
def hubNames : List String :=
  ["docker.io", "index.docker.io", "registry-1.docker.io", "https://index.docker.io/v1/"]

/-- The entry under exactly a host. -/
def get? (credentials : Credentials) (host : String) : Option RegistryAuth :=
  Keyed.get? credentials.entries host

/-- The entry for a registry: the one under its own name or, for Docker Hub, under the first of its
names that has one. -/
def forRegistry (credentials : Credentials) (host : String) : Option RegistryAuth :=
  match credentials.get? host with
  | some auth => some auth
  | none =>
      if hubNames.contains host then hubNames.findSome? credentials.get? else none

/-- The bare host of a server's address, and Docker Hub's first name for its other ones. -/
def normalizeHost (server : String) : String :=
  if hubNames.contains server then "docker.io"
  else
    let address :=
      match Text.cutAt "://".toList server.toList with
      | some (_, rest) => rest
      | none => server.toList
    String.ofList (address.takeWhile (· != '/'))

/-- The username and password of an entry that holds both in one text, a colon between them. -/
def decodeAuth (server : String) (value : Document) : Except Fault RegistryAuth :=
  match value with
  | .scalar (.text encoded) =>
      if encoded.toList.any fun character => 128 ≤ character.toNat then
        .error (.value .notAscii)
      else
        match Text.Base64.decode? encoded.toList with
        | none => .error (.dockerEntry server (.lower .malformedBase64))
        | some bytes =>
            match Text.Utf8.read? bytes with
            | none => .error (.dockerEntry server (.lower .undecodable))
            | some pair =>
                match Text.cutAt [':'] pair.toList with
                | some (username, password) =>
                    .ok ⟨.text (String.ofList username), .text (String.ofList password)⟩
                | none => .ok ⟨.text pair, .text ""⟩
  | _ => .error .wrongKind

/-- The username and password of an entry. -/
def readEntry (server : String) (entry : Document) : Except Fault RegistryAuth := do
  let username ← entry.lookupOr "username" (.text "")
  let password ← entry.lookupOr "password" (.text "")
  if username.truthy then pure ⟨username, password⟩
  else
    let auth ← entry.lookupOrNull "auth"
    if auth.truthy then decodeAuth server auth else pure ⟨username, password⟩

/-- The entries of a config, each host's last one counting. -/
def readEntries (entries : Keyed RegistryAuth) : Fields → Except Fault (Keyed RegistryAuth)
  | [] => .ok entries
  | (server, entry) :: rest => do
      let auth ← readEntry server.display entry
      readEntries (Keyed.put entries (normalizeHost server.display) auth) rest

/-- The credentials in the document of a docker config. -/
def ofDocument (document : Document) : Except Fault Credentials := do
  let auths ← document.lookupOrNull "auths"
  match auths.orElse (.object []) with
  | .object fields => return ⟨← readEntries [] fields⟩
  | _ => throw .noSuchMember

/-- The fault of a docker config that cannot be read, unless it is nested too deeply. -/
def unreadable (fault : Fault) : Fault :=
  if fault.kind.isInvalidValue || fault.kind = .wrongKind then .dockerConfig fault else fault

/-- The document of a docker config. -/
def readConfig : DockerConfig → Except Fault Document
  | .text value => (Document.readText value).mapError unreadable
  | .bytes value => (Document.readBytes value).mapError unreadable
  | .document (.object fields) => .ok (.object fields)
  | .document (.scalar (.text value)) => (Document.readText value).mapError unreadable
  | .document _ => .error (.dockerConfig .wrongKind)

/-- The credentials in a docker config. -/
def ofDockerConfig (config : DockerConfig) : Except Fault Credentials := do
  ofDocument (← readConfig config)

end Credentials

end MonitorOperator
