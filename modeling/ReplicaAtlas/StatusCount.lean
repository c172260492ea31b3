import ReplicaAtlas.Binding
import ReplicaAtlas.Number.Binary64

/-!
Replica counts in status reports. Clusters report in whatever form they like; a count is a member that is a
number and fits a 32-bit word, as it is written or, if it is not written as a natural number, as a float. Any
other member reads as if it were missing.
-/
namespace ReplicaAtlas

namespace Number

def natural? : Number → Option Nat
  | .int (.ofNat n) => some n
  | _ => none

def toFloat : Number → Float
  | .int n => Float.ofInt n
  | .float x => x

/-- A number that is written as a natural one is not looked at as a float, even if it is too large. -/
def word? (number : Number) : Option UInt32 :=
  match number.natural? with
  | some n => if n ≤ Replicas.most then some n.toUInt32 else none
  | none => Binary64.word? number.toFloat

end Number

namespace StatusCount

def replicaFields : List String := ["readyReplicas", "availableReplicas"]

def read? (payload : Option Json) (field : String) : Option UInt32 :=
  match payload.bind (Json.member? field) with
  | some (.number n) => n.word?
  | _ => none

def field (payload : Option Json) (name : String) : UInt32 := (read? payload name).getD 0

def replicas (payload : Option Json) : UInt32 := (replicaFields.findSome? (read? payload)).getD 0

end StatusCount

end ReplicaAtlas
