import ReplicaAtlas.Member.Endpoint
import ReplicaAtlas.Member.TaskSet

/-!
One call to a member cluster over HTTP, step by step: connect to the server, build the request, send it and read the
reply. A call can be given up between any two steps, when its time is over.
-/
namespace ReplicaAtlas

inductive Exchange where
  | opening (server : Server)
  | connected (respond : Http.Request → List UInt8)
  | awaiting (reply : List UInt8)
  | ended (answer : Except MemberFault (List UInt8))

namespace Exchange

/-- The steps of a call for a path, each with the requests that it sends. -/
inductive Step (e : ClusterEndpoint) (path : String) : Exchange → List Http.Request → Exchange → Prop
  | refuse {reason} : Step e path (.opening (.absent reason)) [] (.ended (.error (.connect e.address reason)))
  | connect {respond} : Step e path (.opening (.answering respond)) [] (.connected respond)
  | giveUp {respond} (malformed : e.request? path = none) :
      Step e path (.connected respond) [] (.ended (.error (.request path "malformed request")))
  | send {respond request} (built : e.request? path = some request) :
      Step e path (.connected respond) [request] (.awaiting (respond request))
  | receive {reply} : Step e path (.awaiting reply) [] (.ended (ClusterEndpoint.received path reply))

def answer? : Exchange → Option (Except MemberFault (List UInt8))
  | .ended answer => some answer
  | _ => none

end Exchange

def ClusterEndpoint.exchange (e : ClusterEndpoint) (path : String) :
    Activity Exchange Http.Request (Except MemberFault (List UInt8)) where
  Step := Exchange.Step e path
  result? := Exchange.answer?

end ReplicaAtlas
