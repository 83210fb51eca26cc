import MonitorOperator.Cluster.Api
import MonitorOperator.Text.Digit
import MonitorOperator.Text.Keyed

/-!
# A simulated API server

`Server` keeps StatefulSets by namespace and name, and a version of the status of every monitor that
it was asked about. Every write gets a fresh version. A write on a version other than the live one is
refused as a conflict; a write without a version is not checked.
-/

namespace MonitorOperator.Simulation

open Cluster (ApiCall ApiReply)

/-- The state of the server. -/
structure Server where
  workloads : Keyed Document := []
  lastVersion : Nat := 100
  statusVersions : Keyed Nat := []
  deriving Repr

namespace Server

/-- The refusal with a status and a reason. -/
def refusal (code : Int) (reason : String) : Fault :=
  .refused (.integer code) (.text reason)

/-- The key of an object. -/
def keyOf (scope name : Document) : String := s!"{scope.display}/{name.display}"

/-- A version as manifests have it. -/
def versionText (version : Nat) : Document :=
  .text (String.ofList (Text.decimalDigits version))

/-- The key of the resource version. -/
def versionKey : Scalar := .text "resourceVersion"

/-- The metadata of an object. -/
def metadataOf (body : Document) : Except Fault Fields := do
  (← body.field "metadata").toFields

/-- An object with other metadata. -/
def withMetadata (body : Document) (metadata : Fields) : Except Fault Document := do
  return .object (Fields.put (← body.toFields) (.text "metadata") (.object metadata))

/-- Store an object under a key with a fresh version. -/
def store (server : Server) (key : String) (body : Document) : Except Fault Server := do
  let version := server.lastVersion + 1
  let metadata := Fields.put (← metadataOf body) versionKey (versionText version)
  let body ← withMetadata body metadata
  return { server with
    lastVersion := version
    workloads := Keyed.put server.workloads key body }

/-- The object under a key, after a write stored it there. -/
def stored (server : Server) (key : String) : ApiReply :=
  .document ((Keyed.get? server.workloads key).getD .null)

/-- Read the object under a key. -/
def read (server : Server) (key : String) : Except Fault ApiReply :=
  match Keyed.get? server.workloads key with
  | some body => .ok (.document body)
  | none => .error (refusal 404 "Not Found")

/-- Create an object in a namespace. -/
def create (server : Server) (scope body : Document) : Except Fault (ApiReply × Server) := do
  let key := keyOf scope (← (← body.field "metadata").field "name")
  if (Keyed.get? server.workloads key).isSome then throw (refusal 409 "AlreadyExists")
  let server ← server.store key body
  return (server.stored key, server)

/-- Replace the object under a key. -/
def replace (server : Server) (key : String) (body : Document) :
    Except Fault (ApiReply × Server) := do
  match Keyed.get? server.workloads key with
  | none => throw (refusal 404 "Not Found")
  | some live =>
      let liveVersion := (Fields.get? (← metadataOf live) versionKey).getD .null
      match Fields.get? (← metadataOf body) versionKey with
      | some version =>
          if !version.agrees liveVersion then throw (refusal 409 "Conflict")
      | none => pure ()
      let server ← server.store key body
      return (server.stored key, server)

/-- The version of a status, which is one at the first contact. -/
def statusVersion (server : Server) (key : String) : Nat :=
  (Keyed.get? server.statusVersions key).getD 1

/-- Write the status under a key. The reply tells the new version. The server remembers the contact
also if it refuses the write. -/
def replaceStatus (server : Server) (key : String) (body : Document) :
    Except Fault ApiReply × Server :=
  let version := server.statusVersion key
  let refused := { server with statusVersions := Keyed.put server.statusVersions key version }
  let accepted := { server with statusVersions := Keyed.put server.statusVersions key (version + 1) }
  match metadataOf body with
  | .error fault => (.error fault, refused)
  | .ok metadata =>
      let reply := Document.ofFields
        [("metadata", .ofFields [("resourceVersion", versionText (version + 1))])]
      match Fields.get? metadata versionKey with
      | some given =>
          if given.agrees (versionText version) then (.ok (.document reply), accepted)
          else (.error (refusal 409 "Conflict"), refused)
      | none => (.ok (.document reply), accepted)

/-- Keep the server as it was if a call failed. -/
def settle (server : Server) (result : Except Fault (ApiReply × Server)) :
    Except Fault ApiReply × Server :=
  match result with
  | .ok (reply, server) => (.ok reply, server)
  | .error fault => (.error fault, server)

/-- Answer a call. The namespace has a fixed answer. -/
def answer (server : Server) (namespaceReply : ApiReply) :
    ApiCall → Except Fault ApiReply × Server
  | .readWorkload name scope => (server.read (keyOf scope name), server)
  | .createWorkload scope body => server.settle (server.create scope body)
  | .replaceWorkload name scope body => server.settle (server.replace (keyOf scope name) body)
  | .replaceStatus name scope body => server.replaceStatus (keyOf scope name) body
  | .readNamespace _ => (.ok namespaceReply, server)

/-- Store an object from outside, and return its version. -/
def putBody (server : Server) (body : Document) : Except Fault (Document × Server) := do
  let metadata ← body.field "metadata"
  let server ← server.store (keyOf (← metadata.field "namespace") (← metadata.field "name")) body
  return (versionText server.lastVersion, server)

/-- Delete the object under a key, and return whether it was there. -/
def delete (server : Server) (key : String) : Bool × Server :=
  ((Keyed.get? server.workloads key).isSome,
    { server with workloads := Keyed.remove server.workloads key })

/-- Entries of a map of texts to set; null removes an entry. -/
abbrev Changes := Fields

/-- The map with entries set or removed. -/
def applyChanges (fields : Fields) (changes : Changes) : Fields :=
  changes.foldl
    (fun fields change =>
      match change.2 with
      | .scalar .null => Fields.remove fields change.1
      | value => Fields.put fields change.1 value) fields

/-- The metadata with entries of one of its maps set or removed. -/
def editMap (metadata : Fields) (name : String) (changes : Option Changes) :
    Except Fault Fields :=
  match changes with
  | none => .ok metadata
  | some changes => do
      let old := (Fields.get? metadata (.text name)).getD .null
      let old ← (old.orElse (.object [])).toFields
      return Fields.put metadata (.text name) (.object (applyChanges old changes))

/-- Edit labels, annotations and specification of the object under a key from outside, and return
its new version. -/
def edit (server : Server) (key : String) (labels annotations spec : Option Changes) :
    Except Fault (Document × Server) := do
  match Keyed.get? server.workloads key with
  | none => throw (.missingKey (.text key))
  | some body =>
      let metadata ← editMap (← metadataOf body) "labels" labels
      let metadata ← editMap metadata "annotations" annotations
      let body ← withMetadata body metadata
      let body ←
        match spec with
        | none => pure body
        | some spec => do
            let fields ← body.toFields
            let old := (Fields.get? fields (.text "spec")).getD .null
            let old ← (old.orElse (.object [])).toFields
            pure (.object (Fields.put fields (.text "spec") (.object (Fields.merge old spec))))
      let server ← server.store key body
      return (versionText server.lastVersion, server)

end Server

end MonitorOperator.Simulation
