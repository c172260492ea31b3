import ReplicaAtlas.Json.Decode
import ReplicaAtlas.Number.Quantity
import ReplicaAtlas.Binding

/-!
Nodes and pods as a member cluster lists them. Only the fields that are looked at are kept, and a missing
field reads as empty.
-/
namespace ReplicaAtlas

structure OwnerRef where
  apiVersion : String
  kind : String
  name : String
  deriving DecidableEq, Repr

structure Metadata where
  name : String
  space : String
  labels : Table String
  owners : List OwnerRef
  created : Option String

structure NodeCondition where
  type : String
  status : String
  deriving DecidableEq, Repr

structure NodeAddress where
  type : String
  address : String
  deriving DecidableEq, Repr

structure Node where
  header : Metadata
  conditions : List NodeCondition
  addresses : List NodeAddress
  capacity : Table String
  allocatable : Table String

structure Container where
  name : String
  restarts : UInt32
  deriving DecidableEq, Repr

structure Pod where
  header : Metadata
  nodeName : String
  phase : String
  ip : String
  containers : List Container

namespace OwnerRef

def layout : Layout OwnerRef where
  blank := ⟨"", "", ""⟩
  fields := [
    .defaulted "apiVersion" Decoder.text fun v o => { o with apiVersion := v },
    .defaulted "kind" Decoder.text fun v o => { o with kind := v },
    .defaulted "name" Decoder.text fun v o => { o with name := v }]

def toJson (o : OwnerRef) : Json := .object [
  ("apiVersion", .text o.apiVersion), ("kind", .text o.kind), ("name", .text o.name)]

end OwnerRef

namespace Metadata

def empty : Metadata := ⟨"", "", .empty, [], none⟩

def layout : Layout Metadata where
  blank := empty
  fields := [
    .defaulted "name" Decoder.text fun v m => { m with name := v },
    .defaulted "namespace" Decoder.text fun v m => { m with space := v },
    .defaulted "labels" (Decoder.table Decoder.text) fun v m => { m with labels := v },
    .defaulted "ownerReferences" (Decoder.list OwnerRef.layout.decode) fun v m => { m with owners := v },
    .defaulted "creationTimestamp" (Decoder.optional Decoder.text) fun v m => { m with created := v }]

def toJson (m : Metadata) : Json := .object [
  ("name", .text m.name), ("namespace", .text m.space), ("labels", Json.table .text m.labels),
  ("ownerReferences", Json.list OwnerRef.toJson m.owners),
  ("creationTimestamp", Json.option .text m.created)]

end Metadata

namespace Node

def empty : Node := ⟨.empty, [], [], .empty, .empty⟩

def name (node : Node) : String := node.header.name

def readyStatus? (node : Node) : Option String :=
  (node.conditions.find? (·.type = "Ready")).map (·.status)

def roleMark : String := "node-role.kubernetes.io/"

def roles (node : Node) : List String :=
  (node.header.labels.keys.filterMap fun key =>
    (Text.dropBeginning? roleMark.toList key.toList).map String.ofList).filter (!·.isEmpty)

def internalAddress? (node : Node) : Option String :=
  (node.addresses.find? (·.type = "InternalIP")).map (·.address)

def conditionLayout : Layout NodeCondition where
  blank := ⟨"", ""⟩
  fields := [
    .defaulted "type" Decoder.text fun v c => { c with type := v },
    .defaulted "status" Decoder.text fun v c => { c with status := v }]

def addressLayout : Layout NodeAddress where
  blank := ⟨"", ""⟩
  fields := [
    .defaulted "type" Decoder.text fun v a => { a with type := v },
    .defaulted "address" Decoder.text fun v a => { a with address := v }]

def statusLayout : Layout Node where
  blank := empty
  fields := [
    .defaulted "conditions" (Decoder.list conditionLayout.decode) fun v n => { n with conditions := v },
    .defaulted "addresses" (Decoder.list addressLayout.decode) fun v n => { n with addresses := v },
    .defaulted "capacity" (Decoder.table Decoder.text) fun v n => { n with capacity := v },
    .defaulted "allocatable" (Decoder.table Decoder.text) fun v n => { n with allocatable := v }]

def layout : Layout Node where
  blank := empty
  fields := [
    .defaulted "metadata" Metadata.layout.decode fun v n => { n with header := v },
    .defaulted "status" statusLayout.decode fun v n => { v with header := n.header }]

def toJson (n : Node) : Json := .object [
  ("metadata", n.header.toJson),
  ("status", .object [
    ("conditions", Json.list (fun c => .object [("type", .text c.type), ("status", .text c.status)])
      n.conditions),
    ("addresses", Json.list (fun a => .object [("type", .text a.type), ("address", .text a.address)])
      n.addresses),
    ("capacity", Json.table .text n.capacity), ("allocatable", Json.table .text n.allocatable)])]

end Node

namespace Pod

def empty : Pod := ⟨.empty, "", "", "", []⟩

def restarts (pod : Pod) : UInt32 := Replicas.sum (pod.containers.map (·.restarts))

def containerLayout : Layout Container where
  blank := ⟨"", 0⟩
  fields := [
    .defaulted "name" Decoder.text fun v c => { c with name := v },
    .defaulted "restartCount" Decoder.word fun v c => { c with restarts := v }]

def specLayout : Layout String where
  blank := ""
  fields := [.defaulted "nodeName" Decoder.text fun v _ => v]

def statusLayout : Layout Pod where
  blank := empty
  fields := [
    .defaulted "phase" Decoder.text fun v p => { p with phase := v },
    .defaulted "podIP" Decoder.text fun v p => { p with ip := v },
    .defaulted "containerStatuses" (Decoder.list containerLayout.decode)
      fun v p => { p with containers := v }]

def layout : Layout Pod where
  blank := empty
  fields := [
    .defaulted "metadata" Metadata.layout.decode fun v p => { p with header := v },
    .defaulted "spec" specLayout.decode fun v p => { p with nodeName := v },
    .defaulted "status" statusLayout.decode
      fun v p => { v with header := p.header, nodeName := p.nodeName }]

def toJson (p : Pod) : Json := .object [
  ("metadata", p.header.toJson), ("spec", .object [("nodeName", .text p.nodeName)]),
  ("status", .object [
    ("phase", .text p.phase), ("podIP", .text p.ip),
    ("containerStatuses", Json.list
      (fun c => .object [("name", .text c.name), ("restartCount", .word c.restarts)]) p.containers)])]

end Pod

def listingLayout {α : Type} (item : Layout α) : Layout (List α) where
  blank := []
  fields := [.defaulted "items" (Decoder.list item.decode) fun v _ => v]

end ReplicaAtlas
