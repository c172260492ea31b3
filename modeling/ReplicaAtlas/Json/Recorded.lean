import ReplicaAtlas.Json.Printer
import ReplicaAtlas.Json.Token

/-!
Values as they are after they have been written as text and read again. All but floats stay what they are;
reading does not always find the float that is nearest to a decimal, so a float may become the one beside it.
-/
namespace ReplicaAtlas

def recordedFloat (x : Float) : Float :=
  match (Json.scanNumeric? (Json.floatText x).toList).bind (·.1.value?) with
  | some (.float y) => y
  | _ => x

def Number.recorded : Number → Number
  | .int n => .int n
  | .float x => .float (recordedFloat x)

namespace Json

mutual

def recorded : Json → Json
  | .number n => .number n.recorded
  | .array items => .array (recordedItems items)
  | .object members => .object (recordedMembers members)
  | v => v

def recordedItems : List Json → List Json
  | [] => []
  | v :: vs => recorded v :: recordedItems vs

def recordedMembers : List (String × Json) → List (String × Json)
  | [] => []
  | (name, v) :: ms => (name, recorded v) :: recordedMembers ms

end

end Json

end ReplicaAtlas
