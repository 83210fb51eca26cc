import MonitorOperator.Document.Access

/-!
# Calls to the API server

The operator reads and writes the StatefulSet of a monitor, writes the status of the monitor itself,
and reads one namespace. The server answers with a document or, through a client that knows its
schema, with a model that stands for one.
-/

namespace MonitorOperator.Cluster

/-- A call to the API server. -/
inductive ApiCall where
  | readWorkload (name scope : Document)
  | createWorkload (scope body : Document)
  | replaceWorkload (name scope body : Document)
  | replaceStatus (name scope body : Document)
  | readNamespace (name : String)
  deriving Repr

/-- What the API server returns. -/
inductive ApiReply where
  /-- A document as it is. -/
  | document (value : Document)
  /-- A StatefulSet as a model, with the document that it stands for. -/
  | model (serialized : Document)
  /-- A namespace as a model, with its identity. -/
  | namespaceModel (uid : Document)
  deriving Repr

/-- The name of the kind of a StatefulSet's model. -/
def modelKind : String := "V1StatefulSet"

/-- The name of the kind of a namespace's model. -/
def namespaceModelKind : String := "V1Namespace"

/-- The object that a reply stands for. -/
def ApiReply.toObject : ApiReply → Except Fault Document
  | document (.object fields) => .ok (.object fields)
  | document value => .error (.payload value.kindName)
  | model (.object fields) => .ok (.object fields)
  | model _ => .error (.payload modelKind)
  | namespaceModel _ => .error (.payload namespaceModelKind)

/-- The identity of the namespace that a reply stands for. -/
def ApiReply.namespaceUid : ApiReply → Except Fault Document
  | document (.object fields) => do (← (Document.object fields).field "metadata").field "uid"
  | document _ => .error .noSuchMember
  | model _ => .error .noSuchMember
  | namespaceModel uid => .ok uid

/-- The resource version that a reply to a write tells; null or empty if it tells none. -/
def ApiReply.newVersion : ApiReply → Except Fault Document
  | document value => do
      let metadata := (← (value.orElse (.object [])).lookupOrNull "metadata").orElse (.object [])
      metadata.lookupOrNull "resourceVersion"
  | _ => .error .noSuchMember

end MonitorOperator.Cluster
