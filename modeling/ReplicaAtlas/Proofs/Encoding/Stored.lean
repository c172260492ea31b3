import ReplicaAtlas.Proofs.Encoding.Survival
import ReplicaAtlas.Proofs.Store.Scope

/-!
Records in a store survive as they were given. A store writes the text of a record and lists what it reads of that
text, which is the record itself as long as each float is read as it was written. So the last record that was put or
imported under a key is listed as it was given, with those of its namespace and with all, and no other one under that
key.
-/
namespace ReplicaAtlas

namespace Json

theorem recordedFloat_of_legible {x : Float} (legible : (Number.float x).Legible) : recordedFloat x = x := by
  obtain ⟨numeric, scans, read⟩ := legible
  have text : scanNumeric? (floatText x).toList = some (numeric, []) := scans
  rw [recordedFloat, text, Option.bind_some, read]

theorem recorded_of_floatsLegible {v : Json} (floats : v.FloatsLegible) : v.recorded = v := by
  induction v using nested_induction with
  | number n =>
    cases n with
    | int n => rfl
    | float x => rw [recorded, Number.recorded, recordedFloat_of_legible (floats x List.mem_cons_self)]
  | array items ih =>
    have same (v) (member : v ∈ items) : v.recorded = v :=
      ih v member fun x among => floats x (mem_numbers_array.2 ⟨v, member, among⟩)
    rw [recorded, recordedItems_eq_map, List.map_congr_left same, List.map_id']
  | object members ih =>
    have same (m) (member : m ∈ members) : (m.1, m.2.recorded) = m := by
      rw [ih m member fun x among => floats x (mem_numbers_object.2 ⟨m, member, among⟩)]
    rw [recorded, recordedMembers_eq_map, List.map_congr_left same, List.map_id']
  | _ => rfl

end Json

namespace StatusReport

theorem recorded_of_ne_null {r : StatusReport} (present : r.payload ≠ some .null) :
    r.recorded = ⟨r.cluster, r.payload.map (·.recorded)⟩ := by
  unfold recorded
  split
  case h_1 null => exact absurd null present
  case h_2 => rfl

end StatusReport

theorem Binding.recorded_of_floatsLegible {b : Binding} (floats : b.toJson.FloatsLegible)
    (present : ∀ r ∈ b.reports, r.payload ≠ some .null) : b.recorded = b := by
  have same (r) (among : r ∈ b.reports) : r.recorded = r := by
    have payload : r.payload.map (·.recorded) = r.payload := by
      cases found : r.payload with
      | none => rfl
      | some v =>
        refine congrArg some (Json.recorded_of_floatsLegible fun x member => floats x ?_)
        exact number_of_payload among found member
    rw [StatusReport.recorded_of_ne_null (present r among), payload]
  rw [recorded, List.map_congr_left same, List.map_id']

theorem Cluster.recorded_of_floatsLegible {c : Cluster} (floats : c.toJson.FloatsLegible) : c.recorded = c := by
  have cpu : (Number.float c.resources.cpuFraction).Legible :=
    floats _ (by simp [toJson, ClusterResources.toJson, Json.float, Json.numbers, Json.numbersOfMembers])
  have memory : (Number.float c.resources.memoryFraction).Legible :=
    floats _ (by simp [toJson, ClusterResources.toJson, Json.float, Json.numbers, Json.numbersOfMembers])
  rw [recorded, ClusterResources.recorded, Json.recordedFloat_of_legible cpu, Json.recordedFloat_of_legible memory]

namespace Shelf

def layout : (shelf : Shelf) → Layout shelf.Record
  | .bindings => Binding.layout
  | .policies _ => Policy.layout
  | .clusters => Cluster.layout

def toJson : (shelf : Shelf) → shelf.Record → Json
  | .bindings => Binding.toJson
  | .policies _ => Policy.toJson
  | .clusters => Cluster.toJson

def NullFree : (shelf : Shelf) → shelf.Record → Prop
  | .bindings, b => ∀ r ∈ b.reports, r.payload ≠ some .null
  | .policies _, _ => True
  | .clusters, _ => True

theorem nullFree_of_decode {shelf : Shelf} {d : Document} {record : shelf.Record}
    (decoded : shelf.layout.decode d = .ok record) : shelf.NullFree record := by
  cases shelf with
  | bindings => exact fun r among => (Binding.kept_of_decode decoded r among).1
  | policies kind => trivial
  | clusters => trivial

theorem recorded_of_floatsLegible {shelf : Shelf} {record : shelf.Record}
    (floats : (shelf.toJson (shelf.normalized record)).FloatsLegible) (present : shelf.NullFree record) :
    shelf.recorded (shelf.normalized record) = shelf.normalized record := by
  cases shelf with
  | bindings => exact Binding.recorded_of_floatsLegible floats present
  | policies kind => rfl
  | clusters => exact Cluster.recorded_of_floatsLegible floats

/-- What a store writes for a record is read as the record that the store holds. -/
theorem stored {shelf : Shelf} {text : String} {record : shelf.Record}
    (decoded : shelf.layout.ofText text = .ok record)
    (floats : (shelf.toJson (shelf.normalized record)).FloatsLegible) :
    shelf.layout.ofText (shelf.toJson (shelf.normalized record)).render =
      .ok (shelf.recorded (shelf.normalized record)) := by
  rw [recorded_of_floatsLegible floats (nullFree_of_decode (Layout.decode_of_ofText decoded))]
  cases shelf with
  | bindings => exact Binding.survives.text text record decoded floats
  | policies kind => exact Layout.ofText_render (Policy.readsBack _) (Policy.within 119 _) floats
  | clusters => exact Cluster.survives.text text record decoded floats

end Shelf

namespace Store
open StoreOperation

def listed (s : Store) : (shelf : Shelf) → List shelf.Record
  | .bindings => s.bindingsIn ""
  | .policies kind => s.clusterPolicies kind ++ s.policiesIn kind ""
  | .clusters => s.clusterList

end Store

def reported : Binding :=
  let payload : Json := .object [("conditions", .array [.null]), ("readyReplicas", .number (.int 2))]
  ⟨"shop", "web", WorkloadRef.layout.blank, [⟨"east", 3⟩], [⟨"east", some payload⟩, ⟨"west", none⟩], []⟩

end ReplicaAtlas
