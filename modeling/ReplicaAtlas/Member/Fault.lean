import ReplicaAtlas.Duration

/-!
What goes wrong between the control plane and a member cluster, with the text that is shown for it.
-/
namespace ReplicaAtlas

inductive MemberFault where
  | noClient (cluster : String)
  | connect (endpoint reason : String)
  | handshake (endpoint reason : String)
  | request (path reason : String)
  | status (path : String) (code : Nat)
  | decode (path reason : String)
  | timeout (operation : String) (after : Duration)
  | taskLost
  deriving DecidableEq, Repr

def MemberFault.message : MemberFault → String
  | .noClient cluster => s!"no client registered for cluster {cluster}"
  | .connect endpoint reason => s!"connect to {endpoint} failed: {reason}"
  | .handshake endpoint reason => s!"http handshake with {endpoint} failed: {reason}"
  | .request path reason => s!"request {path} failed: {reason}"
  | .status path code => s!"{path} returned HTTP {code}"
  | .decode path reason => s!"failed to decode {path}: {reason}"
  | .timeout operation after => s!"{operation} timed out after {after.display}"
  | .taskLost => "probe task failed"

end ReplicaAtlas
