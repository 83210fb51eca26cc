import MonitorOperator.Http.Redirect
import MonitorOperator.Proofs.Process.Contract

/-!
# The faults of addressing a request

What is to be a URL may be none, and what is to be sent in a header may not be ASCII. A redirect to a
place that is no URL is a fault of the exchange if the place cannot be read, and a malformed URL if
it cannot be joined to the place of the request (`redirected_faultsIn`).
-/

namespace MonitorOperator.Http

/-- What is ASCII can be sent in a header. -/
theorem checkHeader_eq_ok {value : String}
    (h : ∀ character ∈ value.toList, character.toNat < 128) : checkHeader value = .ok value :=
  if_pos (List.all_eq_true.2 fun character hmem => decide_eq_true (h character hmem))

end MonitorOperator.Http
