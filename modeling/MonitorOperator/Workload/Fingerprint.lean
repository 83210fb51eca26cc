import MonitorOperator.Document.Writer
import MonitorOperator.Text.Sha256
import MonitorOperator.Workload.Manifest

/-!
# Fingerprints

The fingerprint of a workload is a hash of the fields that the operator itself decides: name,
namespace, labels, owners and specification. What the API server or other controllers add stays out
of it, so it never counts as drift.
-/

namespace MonitorOperator

namespace Document

/-- The hash of a document's canonical text in hexadecimal digits. A document with an object whose
keys have no common order has none. -/
def fingerprint (document : Document) : Except Fault String :=
  match document.canonicalText? with
  | some text => .ok (Text.Sha256.hexHash (Text.Utf8.encode text))
  | none => .error .wrongKind

end Document

namespace Workload

/-- The fields of a workload that the operator decides. -/
def identity (workload : Workload) : Document :=
  .ofFields
    [("name", workload.name), ("namespace", workload.scope), ("labels", .object workload.labels),
      ("ownerReferences", .list (workload.owners.map OwnerReference.manifest)),
      ("spec", workload.spec)]

/-- The fingerprint that a workload should have. -/
def computeFingerprint (workload : Workload) : Except Fault String :=
  workload.identity.fingerprint

end Workload

end MonitorOperator
