import ReplicaAtlas.Proofs.Binding.Lookup
import ReplicaAtlas.Proofs.Distribution.Exact

/-!
Distributions and look-ups agree. Where no two bindings are for one workload, the look-up of a binding's own
workload finds that binding and no other, and what all these look-ups tell adds up to what the distribution tells
of the bindings: the phases, the replicas of the summaries, and those of the placements in total and by cluster.
-/
namespace ReplicaAtlas

def WorkloadRef.workload (ref : WorkloadRef) : Workload := ⟨ref.space, ref.name, ref.kind, ref.apiVersion⟩

namespace Binding

def SameWorkload (a b : Binding) : Prop :=
  a.resource.kind = b.resource.kind ∧ a.resource.space = b.resource.space ∧ a.resource.name = b.resource.name

theorem governs_own (b : Binding) : b.governs b.resource.workload = true :=
  (b.governs_iff _).2 ⟨rfl, rfl, rfl⟩

theorem sameWorkload_of_governs {a b : Binding} {w : Workload} (first : a.governs w = true)
    (second : b.governs w = true) : a.SameWorkload b := by
  obtain ⟨kind, space, name⟩ := (a.governs_iff w).1 first
  obtain ⟨otherKind, otherSpace, otherName⟩ := (b.governs_iff w).1 second
  exact ⟨kind.symm.trans otherKind, space.symm.trans otherSpace, name.symm.trans otherName⟩

end Binding

def ApartWorkloads (bindings : List Binding) : Prop := bindings.Pairwise fun a b => ¬ a.SameWorkload b

theorem filter_governs {bindings : List Binding} (apart : ApartWorkloads bindings) {b : Binding}
    (member : b ∈ bindings) {w : Workload} (governs : b.governs w = true) : bindings.filter (·.governs w) = [b] := by
  induction bindings with
  | nil => exact absurd member List.not_mem_nil
  | cons first rest ih =>
    obtain ⟨firstApart, restApart⟩ := List.pairwise_cons.1 apart
    rcases List.mem_cons.1 member with rfl | later
    · have none : rest.filter (·.governs w) = [] := by
        refine List.filter_eq_nil_iff.2 fun other inside otherGoverns => ?_
        exact firstApart other inside (Binding.sameWorkload_of_governs governs otherGoverns)
      rw [List.filter_cons, if_pos governs, none]
    · have idle : ¬ first.governs w = true := by
        intro firstGoverns
        exact firstApart b later (Binding.sameWorkload_of_governs firstGoverns governs)
      rw [List.filter_cons, if_neg idle, ih restApart later]

theorem lookUp_of_governs {bindings : List Binding} (apart : ApartWorkloads bindings) {b : Binding}
    (member : b ∈ bindings) {w : Workload} (governs : b.governs w = true) (weights : Table UInt32) :
    lookUp bindings w weights = ⟨some b, b.placements weights, b.phaseReport, 1⟩ := by
  unfold lookUp findBinding
  rw [filter_governs apart member governs]
  rfl

theorem Binding.toNat_plannedReplicas (b : Binding) :
    b.plannedReplicas.toNat = min (Share.plannedTotal b.shares) Replicas.most := by
  have counts : b.shares.map (·.planned) = b.targets.map (·.replicas) := List.map_map ..
  rw [plannedReplicas, Replicas.toNat_sum, Share.plannedTotal, counts]

namespace Distribution

def lookUps (bindings : List Binding) (weights : Table UInt32) : List BindingLookup :=
  bindings.map fun b => lookUp bindings b.resource.workload weights

def summaries (bindings : List Binding) (weights : Table UInt32) : List WorkloadSummary :=
  bindings.map fun b => .of b.resource.workload (lookUp bindings b.resource.workload weights).binding

def placementsOf (bindings : List Binding) (weights : Table UInt32) : List Placement :=
  (lookUps bindings weights).flatMap (·.placements)

def aims (bindings : List Binding) : List (Binding × Target) :=
  bindings.flatMap fun b => b.targets.map fun target => (b, target)

theorem sharesOf_eq_aims (bindings : List Binding) :
    sharesOf bindings = (aims bindings).map fun aim => aim.1.share aim.2 := by
  rw [aims, List.map_flatMap, sharesOf]
  refine List.flatMap_congr fun b _ => ?_
  rw [List.map_map]
  rfl

section Apart
variable {bindings : List Binding} (apart : ApartWorkloads bindings) (weights : Table UInt32)
include apart

theorem lookUps_eq : lookUps bindings weights =
    bindings.map fun b => ⟨some b, b.placements weights, b.phaseReport, 1⟩ :=
  List.map_congr_left fun b member => lookUp_of_governs apart member b.governs_own weights

theorem summaries_planned : (summaries bindings weights).map (·.planned) = bindings.map (·.plannedReplicas) := by
  rw [summaries, List.map_map]
  refine List.map_congr_left fun b member => ?_
  rw [Function.comp_apply, lookUp_of_governs apart member b.governs_own]
  rfl

theorem placementsOf_eq_aims :
    placementsOf bindings weights = (aims bindings).map fun aim => aim.1.placement weights aim.2 := by
  rw [placementsOf, lookUps_eq apart, List.flatMap_map, aims, List.map_flatMap]
  refine List.flatMap_congr fun b _ => ?_
  rw [List.map_map]
  rfl

theorem map_placementsOf {α : Type} (ofPlacement : Placement → α) (ofShare : Share → α)
    (agree : ∀ (b : Binding) target, ofPlacement (b.placement weights target) = ofShare (b.share target)) :
    (placementsOf bindings weights).map ofPlacement = (sharesOf bindings).map ofShare := by
  rw [placementsOf_eq_aims apart, sharesOf_eq_aims, List.map_map, List.map_map]
  exact List.map_congr_left fun aim _ => agree aim.1 aim.2

theorem map_placementsIn {α : Type} (name : String) (ofPlacement : Placement → α) (ofShare : Share → α)
    (agree : ∀ (b : Binding) target, ofPlacement (b.placement weights target) = ofShare (b.share target)) :
    ((placementsOf bindings weights).filter (·.cluster = name)).map ofPlacement =
      (Share.inCluster name (sharesOf bindings)).map ofShare := by
  rw [placementsOf_eq_aims apart, Share.inCluster, sharesOf_eq_aims, List.filter_map, List.filter_map,
    List.map_map, List.map_map]
  exact List.map_congr_left fun aim _ => agree aim.1 aim.2

theorem phases_of_lookUps (phase : Phase) :
    ((lookUps bindings weights).filter (·.report.phase = phase)).length =
      (bindings.filter (·.phaseReport.phase = phase)).length := by
  rw [lookUps_eq apart, List.filter_map, List.length_map]
  rfl

end Apart

/-- The look-ups of all workloads, put together, are the distribution. -/
structure AgreesWithLookUps (bindings : List Binding) (weights : Table UInt32) (d : Distribution) : Prop where
  found : ∀ b ∈ bindings, ∀ w, b.governs w = true →
    (lookUp bindings w weights).binding = some b ∧ (lookUp bindings w weights).matching = 1
  foundOwn : ∀ b ∈ bindings, (lookUp bindings b.resource.workload weights).binding = some b ∧
    (lookUp bindings b.resource.workload weights).matching = 1
  scheduled : d.scheduled = ((lookUps bindings weights).filter (·.report.phase = .scheduled)).length
  pending : d.pending = ((lookUps bindings weights).filter (·.report.phase = .pending)).length
  failed : d.failed = ((lookUps bindings weights).filter (·.report.phase = .failed)).length
  plannedInSummaries : d.totals.planned.toNat =
    min (Replicas.total ((summaries bindings weights).map (·.planned))) 4294967295
  planned : d.totals.planned.toNat =
    min (Replicas.total ((placementsOf bindings weights).map (·.planned))) 4294967295
  ready : d.totals.ready.toNat =
    min (Replicas.total ((placementsOf bindings weights).map (·.actual))) 4294967295
  clusters : ∀ name, name ∈ d.clusters.keys ↔ ∃ placement ∈ placementsOf bindings weights, placement.cluster = name
  clusterPlanned : ∀ row ∈ d.clusters.entries, row.2.planned.toNat =
    min (Replicas.total (((placementsOf bindings weights).filter (·.cluster = row.1)).map (·.planned))) 4294967295
  clusterReady : ∀ row ∈ d.clusters.entries, row.2.ready.toNat =
    min (Replicas.total (((placementsOf bindings weights).filter (·.cluster = row.1)).map (·.actual))) 4294967295
  words : bindings.length < 4294967296 → (bindings.flatMap (·.targets)).length < 4294967296 →
    checkedOfBindings bindings = .ok d

/-- Of bindings that are each for a workload of its own, the distribution tells what the look-ups of their workloads
tell together, also where sums stop at the largest word on either side. Its counts are words as long as there are
fewer than 2^32 bindings and targets. -/
theorem distribution_agrees_with_lookUps (bindings : List Binding) (apart : ApartWorkloads bindings)
    (weights : Table UInt32) : AgreesWithLookUps bindings weights (ofBindings bindings) := by
  have exact := exact_ofBindings bindings
  have found (b : Binding) (member : b ∈ bindings) (w : Workload) (governs : b.governs w = true) :
      (lookUp bindings w weights).binding = some b ∧ (lookUp bindings w weights).matching = 1 := by
    rw [lookUp_of_governs apart member governs]
    exact ⟨rfl, rfl⟩
  constructor
  case found => exact found
  case foundOwn => exact fun b member => found b member _ b.governs_own
  case scheduled => rw [phases_of_lookUps apart, exact.scheduled]
  case pending => rw [phases_of_lookUps apart, exact.pending]
  case failed => rw [phases_of_lookUps apart, exact.failed]
  case plannedInSummaries =>
    -- Each summary has stopped at the largest word before they are added up.
    have stopped := Replicas.min_total_parts bindings (fun b => b.shares.map Share.planned) (·.plannedReplicas)
      fun b _ => b.toNat_plannedReplicas
    rw [summaries_planned apart, exact.totals.planned, Share.plannedTotal, sharesOf, List.map_flatMap]
    exact stopped.symm
  case planned =>
    rw [map_placementsOf apart weights _ (·.planned) fun _ _ => rfl, exact.totals.planned]
    rfl
  case ready =>
    rw [map_placementsOf apart weights _ (·.ready) fun _ _ => rfl, exact.totals.ready]
    rfl
  case clusters =>
    intro name
    rw [exact.clusterNames, placementsOf_eq_aims apart]
    simp only [aims, List.mem_map, List.mem_flatMap]
    constructor
    · rintro ⟨b, bound, target, aimed, here⟩
      exact ⟨_, ⟨_, ⟨b, bound, target, aimed, rfl⟩, rfl⟩, here⟩
    · rintro ⟨_, ⟨_, ⟨b, bound, target, aimed, rfl⟩, rfl⟩, here⟩
      exact ⟨b, bound, target, aimed, here⟩
  case clusterPlanned =>
    intro row member
    rw [map_placementsIn apart weights row.1 _ (·.planned) fun _ _ => rfl, (exact.clusterRows row member).planned]
    rfl
  case clusterReady =>
    intro row member
    rw [map_placementsIn apart weights row.1 _ (·.ready) fun _ _ => rfl, (exact.clusterRows row member).ready]
    rfl
  case words => exact checkedOfBindings_ok

def overplanned : List Binding :=
  [⟨"shop", "web", ⟨"apps/v1", "Deployment", "shop", "web"⟩, [⟨"west", 4294967295⟩, ⟨"west", 2⟩], [], []⟩,
    ⟨"shop", "db", ⟨"apps/v1", "StatefulSet", "shop", "web"⟩, [⟨"east", 4294967295⟩, ⟨"west", 1⟩],
      [⟨"west", some (.object [("availableReplicas", .number (.int 1))])⟩, ⟨"north", none⟩], []⟩]

theorem distribution_agrees_with_lookUps_overplanned :
    ApartWorkloads overplanned ∧ AgreesWithLookUps overplanned .empty (ofBindings overplanned) ∧
      checkedOfBindings overplanned = .ok (ofBindings overplanned) ∧
      (ofBindings overplanned).totals = ⟨2, 4294967295, 1⟩ ∧
      (ofBindings overplanned).clusters.get? "west" = some ⟨3, 4294967295, 1⟩ := by
  have apart : ApartWorkloads overplanned := by
    refine List.pairwise_cons.2 ⟨fun other member same => ?_, List.pairwise_singleton _ _⟩
    rw [List.mem_singleton.1 member] at same
    exact absurd same.1 (by decide)
  have agrees := distribution_agrees_with_lookUps overplanned apart .empty
  exact ⟨apart, agrees, agrees.words (by decide) (by decide), by decide +kernel, by decide +kernel⟩

end Distribution

end ReplicaAtlas
