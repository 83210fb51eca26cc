import MonitorOperator.Http.Message

/-!
# Simulated HTTP peers

A peer answers the requests that it gets with the answers of its script, one after the other,
whatever they ask for, and keeps them. When its script is at an end, no connection is made.
-/

namespace MonitorOperator.Simulation

open Http (Request Response)

/-- The answer to one request. -/
inductive Answer where
  | response (response : Response)
  | fault (fault : Fault)
  deriving Repr

/-- A peer, with the answers to come and the requests so far, the latest first. -/
structure Peer where
  answers : List Answer := []
  received : List Request := []
  deriving Repr

namespace Answer

/-- The headers as they are sent: names and values must be ASCII. -/
def checkHeaders : List Http.Header → Except Fault Unit
  | [] => .ok ()
  | (name, value) :: headers => do
      let _ ← Http.checkHeader name
      let _ ← Http.checkHeader value
      checkHeaders headers

/-- What a request gets as answer. -/
def deliver : Answer → Except Fault Response
  | response found => do
      checkHeaders found.headers
      return found
  | fault found => .error found

end Answer

namespace Peer

/-- The fault of a request to which there is no answer. -/
def noAnswer : Fault :=
  .reported (.transport "ConnectError") "no response scripted"

/-- Answer a request. -/
def receive (request : Request) (peer : Peer) : Except Fault Response × Peer :=
  let received := request :: peer.received
  match peer.answers with
  | [] => (.error noAnswer, { peer with received })
  | answer :: answers => (answer.deliver, { answers, received })

/-- The requests so far, in order. -/
def requests (peer : Peer) : List Request := peer.received.reverse

/-- The peer without the requests so far. -/
def forgetting (peer : Peer) : Peer := { peer with received := [] }

end Peer

end MonitorOperator.Simulation
