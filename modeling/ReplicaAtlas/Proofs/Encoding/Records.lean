import ReplicaAtlas.Proofs.Json.Layout
import ReplicaAtlas.Snapshot

/-!
The records of the library and the values that are written for them. Each record is decoded from its value as it was,
where the payloads of status reports have to be values that a document is kept as. Those of a decoded binding are: they
are kept from parts of its document, three levels below it.
-/
namespace ReplicaAtlas

open Decoder Layout Json Document

theorem clusterNames_readsBack (names : List String) : clusterNamesLayout.decode.ReadsBack clusterNamesToJson names :=
  readsBack_of_fields [.texts names] rfl (by decide) rfl
    (readItems_cons (readsBack_list fun _ _ => readsBack_text _) rfl)

namespace WeightEntry

theorem readsBack (e : WeightEntry) : layout.decode.ReadsBack toJson e :=
  readsBack_of_fields [clusterNamesToJson e.clusters, .word e.weight] rfl (by decide) rfl
    (readItems_cons (clusterNames_readsBack e.clusters) (readItems_cons (readsBack_word e.weight) rfl))

theorem within (levels : Nat) (e : WeightEntry) : e.toJson.Within (levels + 3) := by
  simp [toJson, clusterNamesToJson]

end WeightEntry

namespace ReplicaRule

theorem preference_readsBack (entries : List WeightEntry) :
    preferenceLayout.decode.ReadsBack
      (fun entries => .object [("staticWeightList", Json.list WeightEntry.toJson entries)]) entries :=
  readsBack_of_fields [Json.list WeightEntry.toJson entries] rfl (by decide) rfl
    (readItems_cons (readsBack_list fun e _ => e.readsBack) rfl)

theorem readsBack (r : ReplicaRule) : layout.decode.ReadsBack toJson r := by
  have preference := readsBack_optional (a := r.preference) (fun entries _ => preference_readsBack entries) nofun
  exact readsBack_of_fields [.text r.strategy, Json.option _ r.preference] rfl (by decide) rfl
    (readItems_cons (readsBack_text r.strategy) (readItems_cons preference rfl))

theorem within (levels : Nat) (r : ReplicaRule) : r.toJson.Within (levels + 6) := by
  have entry (e : WeightEntry) := e.within levels
  have preference (entries) :
      Within (levels + 5) (.object [("staticWeightList", Json.list WeightEntry.toJson entries)]) := by
    simp [entry]
  simp [toJson, within_option, preference]

end ReplicaRule

namespace PlacementRule

theorem labels_readsBack (labels : Table String) :
    labelsLayout.decode.ReadsBack (fun labels => .object [("matchLabels", Json.table .text labels)]) labels :=
  readsBack_of_fields [Json.table .text labels] rfl (by decide) rfl
    (readItems_cons (readsBack_table fun _ _ => readsBack_text _) rfl)

theorem readsBack (r : PlacementRule) : layout.decode.ReadsBack toJson r := by
  have affinity := readsBack_optional (a := r.affinity) (fun names _ => clusterNames_readsBack names) nofun
  have labels := readsBack_optional (a := r.labels) (fun labels _ => labels_readsBack labels) nofun
  have replicas := readsBack_optional (a := r.replicas) (fun rule _ => rule.readsBack) nofun
  exact readsBack_of_fields [Json.option _ r.affinity, Json.option _ r.labels, Json.option _ r.replicas] rfl
    (by decide) rfl (readItems_cons affinity (readItems_cons labels (readItems_cons replicas rfl)))

theorem within (levels : Nat) (r : PlacementRule) : r.toJson.Within (levels + 7) := by
  have affinity (names) : (clusterNamesToJson names).Within (levels + 6) := by simp [clusterNamesToJson]
  have labels (t) : Within (levels + 6) (.object [("matchLabels", Json.table .text t)]) := by
    simp [within_table]
  have replicas (rule : ReplicaRule) := rule.within levels
  simp [toJson, within_option, affinity, labels, replicas]

end PlacementRule

theorem WorkloadSelector.readsBack (s : WorkloadSelector) : layout.decode.ReadsBack toJson s :=
  readsBack_of_fields [.text s.apiVersion, .text s.kind, .text s.space, .text s.name] rfl (by decide) rfl
    (readItems_cons (readsBack_text s.apiVersion) (readItems_cons (readsBack_text s.kind)
      (readItems_cons (readsBack_text s.space) (readItems_cons (readsBack_text s.name) rfl))))

namespace Policy

theorem readsBack (p : Policy) : layout.decode.ReadsBack toJson p := by
  have space := readsBack_optional (a := p.space) (fun s _ => readsBack_text s) nofun
  exact readsBack_of_fields
    [.text p.name, Json.option .text p.space, Json.list WorkloadSelector.toJson p.selectors, p.placement.toJson] rfl
    (by decide) rfl (readItems_cons (readsBack_text p.name) (readItems_cons space
      (readItems_cons (readsBack_list fun s _ => s.readsBack) (readItems_cons p.placement.readsBack rfl))))

theorem within (levels : Nat) (p : Policy) : p.toJson.Within (levels + 8) := by
  have placement := p.placement.within levels
  simp [toJson, WorkloadSelector.toJson, within_option, placement]

end Policy

theorem Taint.readsBack (t : Taint) : layout.decode.ReadsBack toJson t :=
  readsBack_of_fields [.text t.key, .text t.value, .text t.effect] rfl (by decide) rfl
    (readItems_cons (readsBack_text t.key) (readItems_cons (readsBack_text t.value)
      (readItems_cons (readsBack_text t.effect) rfl)))

theorem ClusterResources.readsBack (r : ClusterResources) : layout.decode.ReadsBack toJson r :=
  readsBack_of_fields
    [.wide r.cpuCapacity, .float r.cpuFraction, .wide r.memoryCapacity, .float r.memoryFraction, .wide r.podCapacity,
      .wide r.allocatedPods] rfl (by decide) rfl
    (readItems_cons (readsBack_wide r.cpuCapacity) (readItems_cons (readsBack_float r.cpuFraction)
      (readItems_cons (readsBack_wide r.memoryCapacity) (readItems_cons (readsBack_float r.memoryFraction)
        (readItems_cons (readsBack_wide r.podCapacity) (readItems_cons (readsBack_wide r.allocatedPods) rfl))))))

theorem NodeSummary.readsBack (s : NodeSummary) : layout.decode.ReadsBack toJson s :=
  readsBack_of_fields [.word s.total, .word s.ready] rfl (by decide) rfl
    (readItems_cons (readsBack_word s.total) (readItems_cons (readsBack_word s.ready) rfl))

namespace Cluster

theorem readsBack (c : Cluster) : layout.decode.ReadsBack toJson c :=
  readsBack_of_fields
    [.text c.name, Json.table .text c.labels, .bool c.ready, .text c.version, Json.list Taint.toJson c.taints,
      c.resources.toJson, c.nodes.toJson] rfl (by decide) rfl
    (readItems_cons (readsBack_text c.name) (readItems_cons (readsBack_table fun _ _ => readsBack_text _)
      (readItems_cons (readsBack_bool c.ready) (readItems_cons (readsBack_text c.version)
        (readItems_cons (readsBack_list fun t _ => t.readsBack) (readItems_cons c.resources.readsBack
          (readItems_cons c.nodes.readsBack rfl)))))))

theorem within (levels : Nat) (c : Cluster) : c.toJson.Within (levels + 3) := by
  simp [toJson, within_table, Taint.toJson, ClusterResources.toJson, NodeSummary.toJson]

end Cluster

theorem WorkloadRef.readsBack (r : WorkloadRef) : layout.decode.ReadsBack toJson r :=
  readsBack_of_fields [.text r.apiVersion, .text r.kind, .text r.space, .text r.name] rfl (by decide) rfl
    (readItems_cons (readsBack_text r.apiVersion) (readItems_cons (readsBack_text r.kind)
      (readItems_cons (readsBack_text r.space) (readItems_cons (readsBack_text r.name) rfl))))

theorem Target.readsBack (t : Target) : layout.decode.ReadsBack toJson t :=
  readsBack_of_fields [.text t.cluster, .word t.replicas] rfl (by decide) rfl
    (readItems_cons (readsBack_text t.cluster) (readItems_cons (readsBack_word t.replicas) rfl))

theorem Truth.readsBack (t : Truth) : decode.ReadsBack (.text ·.name) t := by
  cases t <;> rfl

theorem Condition.readsBack (c : Condition) : layout.decode.ReadsBack toJson c :=
  readsBack_of_fields [.text c.type, .text c.status.name, .text c.reason, .text c.message] rfl (by decide) rfl
    (readItems_cons (readsBack_text c.type) (readItems_cons c.status.readsBack
      (readItems_cons (readsBack_text c.reason) (readItems_cons (readsBack_text c.message) rfl))))

namespace StatusReport

/-- The payload, if there is one, is a value that a document is kept as, where null is kept as no payload. -/
def Kept (r : StatusReport) : Prop := r.payload ≠ some .null ∧ ∀ v ∈ r.payload, v.Ordered

theorem Kept.readsBack {r : StatusReport} (kept : r.Kept) : layout.decode.ReadsBack toJson r :=
  readsBack_of_fields [.text r.cluster, r.payload.getD .null] rfl (by decide) rfl
    (readItems_cons (readsBack_text r.cluster) (readItems_cons (readsBack_optionalJson kept.1 kept.2) rfl))

theorem within {levels : Nat} {r : StatusReport} (payload : ∀ v ∈ r.payload, v.Within levels) :
    r.toJson.Within (levels + 1) := by
  have status : (r.payload.getD .null).Within levels := by
    cases present : r.payload with
    | none => exact within_null
    | some v => exact payload v present
  simp [toJson, status]

/-- The payload is what a part of the document is kept as, and null is kept as no payload. -/
theorem payload_of_decode {d : Document} {r : StatusReport} (decoded : layout.decode d = .ok r) :
    ∀ v ∈ r.payload, v ≠ .null ∧ ∃ part ∈ d.children, part.value? = some v := by
  refine decode_keeps (fun r => ∀ v ∈ r.payload, v ≠ .null ∧ ∃ part ∈ d.children, part.value? = some v)
    (fun v absent => absurd absent (Option.not_mem_none v)) ?_ decoded
  intro field known part member before after holds read
  simp only [layout, List.mem_cons, List.not_mem_nil, or_false] at known
  rcases known with rfl | rfl
  · obtain ⟨_, -, rfl⟩ := map_ok_iff.1 read
    exact holds
  · obtain ⟨payload, decoded, rfl⟩ := map_ok_iff.1 read
    rintro v ⟨⟩
    obtain ⟨kept, present⟩ := value?_of_optionalJson decoded
    exact ⟨present, part, member, kept⟩

end StatusReport

namespace Binding

theorem readsBack {b : Binding} (kept : ∀ r ∈ b.reports, r.Kept) : layout.decode.ReadsBack toJson b :=
  readsBack_of_fields
    [.text b.space, .text b.name, b.resource.toJson, Json.list Target.toJson b.targets,
      Json.list StatusReport.toJson b.reports, Json.list Condition.toJson b.conditions] rfl (by decide) rfl
    (readItems_cons (readsBack_text b.space) (readItems_cons (readsBack_text b.name)
      (readItems_cons b.resource.readsBack (readItems_cons (readsBack_list fun t _ => t.readsBack)
        (readItems_cons (readsBack_list fun r among => (kept r among).readsBack)
          (readItems_cons (readsBack_list fun c _ => c.readsBack) rfl))))))

theorem within {levels : Nat} {b : Binding} (payloads : ∀ r ∈ b.reports, ∀ v ∈ r.payload, v.Within levels) :
    b.toJson.Within (levels + 3) := by
  have reports (r) (member : r ∈ b.reports) := StatusReport.within (payloads r member)
  simpa [toJson, WorkloadRef.toJson, Target.toJson, Condition.toJson] using reports

theorem number_of_payload {b : Binding} {r : StatusReport} (among : r ∈ b.reports) {v : Json}
    (present : r.payload = some v) {n : Number} (member : n ∈ v.numbers) : n ∈ b.toJson.numbers := by
  have report : n ∈ r.toJson.numbers :=
    mem_numbers_object.2 ⟨("status", r.payload.getD .null), by simp, by rwa [present]⟩
  have reports : n ∈ (Json.list StatusReport.toJson b.reports).numbers :=
    mem_numbers_array.2 ⟨r.toJson, List.mem_map.2 ⟨r, among, rfl⟩, report⟩
  exact mem_numbers_object.2 ⟨("aggregatedStatus", Json.list StatusReport.toJson b.reports), by simp, reports⟩

theorem reports_of_decode {d : Document} {b : Binding} (decoded : layout.decode d = .ok b) :
    ∀ r ∈ b.reports, ∃ part, Below part 2 d ∧ StatusReport.layout.decode part = .ok r := by
  refine mem_of_decode Binding.reports rfl (fun field known part before after read => ?_) decoded
  simp only [layout, List.mem_cons, List.not_mem_nil, or_false] at known
  rcases known with rfl | rfl | rfl | rfl | rfl | rfl
  case inr.inr.inr.inr.inl =>
    obtain ⟨reports, decoded, rfl⟩ := map_ok_iff.1 read
    exact .inr decoded
  all_goals
    obtain ⟨_, -, rfl⟩ := map_ok_iff.1 read
    exact .inl rfl

theorem payloads_of_decode {d : Document} {b : Binding} (decoded : layout.decode d = .ok b) :
    ∀ r ∈ b.reports, ∀ v ∈ r.payload, v ≠ .null ∧ ∃ part, Below part 3 d ∧ part.value? = some v := by
  intro r among v payload
  obtain ⟨report, below, decoded⟩ := reports_of_decode decoded r among
  obtain ⟨present, part, member, kept⟩ := StatusReport.payload_of_decode decoded v payload
  exact ⟨present, part, Below.of_below (.inside member .here) below, kept⟩

theorem kept_of_decode {d : Document} {b : Binding} (decoded : layout.decode d = .ok b) : ∀ r ∈ b.reports, r.Kept := by
  intro r among
  constructor
  · intro null
    exact (payloads_of_decode decoded r among .null null).1 rfl
  · intro v payload
    obtain ⟨-, part, -, kept⟩ := payloads_of_decode decoded r among v payload
    exact ordered_of_value? kept

end Binding

namespace Snapshot

theorem readsBack {s : Snapshot} (kept : ∀ b ∈ s.bindings, ∀ r ∈ b.reports, r.Kept) :
    layout.decode.ReadsBack toJson s :=
  readsBack_of_fields
    [Json.list Cluster.toJson s.clusters, Json.list Binding.toJson s.bindings, Json.list Policy.toJson s.propagation,
      Json.list Policy.toJson s.overrides] rfl (by decide) rfl
    (readItems_cons (readsBack_list fun c _ => c.readsBack)
      (readItems_cons (readsBack_list fun b among => Binding.readsBack (kept b among))
        (readItems_cons (readsBack_list fun p _ => p.readsBack)
          (readItems_cons (readsBack_list fun p _ => p.readsBack) rfl))))

theorem within {levels : Nat} {s : Snapshot}
    (payloads : ∀ b ∈ s.bindings, ∀ r ∈ b.reports, ∀ v ∈ r.payload, v.Within (levels + 5)) :
    s.toJson.Within (levels + 10) := by
  have clusters (c : Cluster) := c.within (levels + 5)
  have bindings (b) (member : b ∈ s.bindings) := Binding.within (payloads b member)
  have policies (p : Policy) := p.within levels
  simpa [toJson, clusters, policies] using bindings

theorem bindings_of_decode {d : Document} {s : Snapshot} (decoded : layout.decode d = .ok s) :
    ∀ b ∈ s.bindings, ∃ part, Below part 2 d ∧ Binding.layout.decode part = .ok b := by
  refine mem_of_decode Snapshot.bindings rfl (fun field known part before after read => ?_) decoded
  simp only [layout, List.mem_cons, List.not_mem_nil, or_false] at known
  rcases known with rfl | rfl | rfl | rfl
  case inr.inl =>
    obtain ⟨bindings, decoded, rfl⟩ := map_ok_iff.1 read
    exact .inr decoded
  all_goals
    obtain ⟨_, -, rfl⟩ := map_ok_iff.1 read
    exact .inl rfl

theorem payloads_of_decode {d : Document} {s : Snapshot} (decoded : layout.decode d = .ok s) :
    ∀ b ∈ s.bindings, ∀ r ∈ b.reports, ∀ v ∈ r.payload,
      v ≠ .null ∧ ∃ part, Below part 5 d ∧ part.value? = some v := by
  intro b inSnapshot r among v payload
  obtain ⟨binding, upper, decoded⟩ := bindings_of_decode decoded b inSnapshot
  obtain ⟨present, part, lower, kept⟩ := Binding.payloads_of_decode decoded r among v payload
  exact ⟨present, part, lower.of_below upper, kept⟩

theorem kept_of_decode {d : Document} {s : Snapshot} (decoded : layout.decode d = .ok s) :
    ∀ b ∈ s.bindings, ∀ r ∈ b.reports, r.Kept := by
  intro b inSnapshot
  obtain ⟨part, -, decoded⟩ := bindings_of_decode decoded b inSnapshot
  exact Binding.kept_of_decode decoded

end Snapshot

end ReplicaAtlas
