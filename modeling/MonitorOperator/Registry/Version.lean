import MonitorOperator.Document.Access
import MonitorOperator.Text.Keyed

/-!
# Versions of images

What is published under an image reference: a version and the hash of the content. A fixed table
answers without any registry.
-/

namespace MonitorOperator

/-- A published version and the hash of its content. -/
structure VersionRecord where
  version : Document
  hash : Document
  deriving Repr

/-- A fixed table of versions. An image may be listed as unknown; a default answers for those that
are not listed. -/
structure VersionTable where
  records : Keyed (Option VersionRecord) := []
  fallback : Option VersionRecord := none
  deriving Repr

/-- The version that a table has for an image. -/
def VersionTable.resolve (table : VersionTable) (image : Document) :
    Except Fault VersionRecord := do
  let key ← image.toKey
  let listed := table.records.find? fun entry => key.agrees (.text entry.1)
  match (listed.map (·.2)).getD table.fallback with
  | some record => pure record
  | none => throw (.registry (.unknownImage image))

end MonitorOperator
