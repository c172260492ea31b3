import ReplicaAtlas.Proofs.Distribution.Exact

/-!
What the workloads in the row of a cluster count. Each target in the cluster is counted, so that a binding which names
the cluster again is counted again, while the totals and the rows of namespaces count every binding once.
-/
namespace ReplicaAtlas

def Binding.aimedAt (b : Binding) : List String := b.targets.map (·.cluster)

namespace Distribution

def workloadsIn (d : Distribution) (name : String) : Nat := ((d.clusters.get? name).getD .zero).workloads

def aimingAt (name : String) (bindings : List Binding) : List Binding := bindings.filter (name ∈ ·.aimedAt)

/-- Targets in the cluster beyond the first one of their binding. -/
def repeatsOf (name : String) (bindings : List Binding) : Nat := (bindings.map (·.aimedAt.count name - 1)).sum

theorem length_inCluster (name : String) (bindings : List Binding) :
    (Share.inCluster name (sharesOf bindings)).length = (bindings.map (·.aimedAt.count name)).sum := by
  have counted (b : Binding) : b.shares.countP (·.cluster = name) = b.aimedAt.count name := by
    rw [Binding.shares, Binding.aimedAt, List.countP_map, List.count, List.countP_map]
    rfl
  rw [Share.inCluster, ← List.countP_eq_length_filter, sharesOf, List.countP_flatMap]
  simp only [Function.comp_def, counted]

theorem workloadsIn_ofBindings (bindings : List Binding) (name : String) :
    (ofBindings bindings).workloadsIn name = (bindings.map (·.aimedAt.count name)).sum := by
  rw [workloadsIn, (accounts_ofBindings bindings).clusterRow, ← length_inCluster]
  rfl

/-- A binding enters the count once for itself and once more for every repeat. -/
theorem sum_count_eq (name : String) (bindings : List Binding) :
    (bindings.map (·.aimedAt.count name)).sum = (aimingAt name bindings).length + repeatsOf name bindings := by
  induction bindings with
  | nil => rfl
  | cons b bindings ih =>
    unfold aimingAt repeatsOf at ih ⊢
    rw [List.map_cons, List.sum_cons, ih, List.map_cons, List.sum_cons]
    by_cases aimed : name ∈ b.aimedAt
    · have once := List.count_pos_iff.2 aimed
      rw [List.filter_cons, if_pos (decide_eq_true aimed), List.length_cons]
      omega
    · have never := List.count_eq_zero.2 aimed
      rw [List.filter_cons, if_neg (mt of_decide_eq_true aimed), never]
      omega

theorem repeatsOf_eq_zero_iff (name : String) (bindings : List Binding) :
    repeatsOf name bindings = 0 ↔ ∀ b ∈ bindings, b.aimedAt.count name ≤ 1 := by
  simp only [repeatsOf, List.sum_eq_zero_iff_forall_eq_nat, List.forall_mem_map, Nat.sub_eq_zero_iff_le]

theorem workloadsIn_le_targets (bindings : List Binding) (name : String) :
    (ofBindings bindings).workloadsIn name ≤ (bindings.flatMap (·.targets)).length := by
  have shares : (sharesOf bindings).length = (bindings.flatMap (·.targets)).length := by
    simp only [sharesOf, List.length_flatMap, Binding.shares, List.length_map]
  rw [workloadsIn_ofBindings, ← length_inCluster, ← shares]
  exact List.length_filter_le ..

structure CountsTargets (bindings : List Binding) (d : Distribution) : Prop where
  rows : ∀ name, name ∈ d.clusters.keys ↔ aimingAt name bindings ≠ []
  workloads : ∀ name, d.workloadsIn name = (aimingAt name bindings).length + repeatsOf name bindings
  exactly : ∀ name, d.workloadsIn name = (aimingAt name bindings).length ↔
    ∀ b ∈ bindings, b.aimedAt.count name ≤ 1
  within : ∀ name, (∀ b ∈ bindings, b.aimedAt.count name ≤ 1) → d.workloadsIn name ≤ d.totals.workloads
  everywhere : (∀ name, d.workloadsIn name = (aimingAt name bindings).length) ↔ ∀ b ∈ bindings, b.aimedAt.Nodup

theorem countsTargets_ofBindings (bindings : List Binding) : CountsTargets bindings (ofBindings bindings) := by
  have workloads (name : String) :
      (ofBindings bindings).workloadsIn name = (aimingAt name bindings).length + repeatsOf name bindings :=
    (workloadsIn_ofBindings bindings name).trans (sum_count_eq name bindings)
  have exactly (name : String) : (ofBindings bindings).workloadsIn name = (aimingAt name bindings).length ↔
      ∀ b ∈ bindings, b.aimedAt.count name ≤ 1 := by
    rw [workloads, Nat.add_eq_left, repeatsOf_eq_zero_iff]
  constructor
  case rows =>
    intro name
    rw [mem_clusters_iff, ← List.length_pos_iff, List.length_pos_iff_exists_mem]
    simp only [aimingAt, Binding.aimedAt, List.mem_filter, List.mem_map, decide_eq_true_eq]
  case workloads => exact workloads
  case exactly => exact exactly
  case within =>
    intro name once
    rw [(exactly name).2 once, (accounts_ofBindings bindings).totals]
    exact List.length_filter_le ..
  case everywhere =>
    simp only [exactly, List.nodup_iff_count_le_one]
    exact ⟨fun once b member name => once name b member, fun once name b member => once b member name⟩

/-- With fewer than 2^32 targets the workloads of every row are a word. They are the bindings that aim at the cluster
and the repeats, and thus the bindings alone just where no binding names the cluster twice. -/
theorem cluster_workloads_count_targets (bindings : List Binding)
    (fewTargets : (bindings.flatMap (·.targets)).length < 4294967296) :
    CountsTargets bindings (ofBindings bindings) ∧
      (∀ name, (ofBindings bindings).workloadsIn name < 4294967296) ∧
      (bindings.length < 4294967296 → checkedOfBindings bindings = .ok (ofBindings bindings)) :=
  ⟨countsTargets_ofBindings bindings,
    fun name => Nat.lt_of_le_of_lt (workloadsIn_le_targets bindings name) fewTargets,
    fun few => checkedOfBindings_ok few fewTargets⟩

def doubled : List Binding :=
  [⟨"shop", "web", WorkloadRef.layout.blank, [⟨"west", 1⟩, ⟨"east", 1⟩, ⟨"west", 2⟩], [], []⟩]

/-- There is one workload in all, and two of them are in one cluster. -/
theorem cluster_counts_workload_twice :
    (doubled.flatMap (·.targets)).length < 4294967296 ∧ (aimingAt "west" doubled).length = 1 ∧
      (ofBindings doubled).clusters.get? "west" = some ⟨2, 3, 0⟩ ∧ (ofBindings doubled).totals.workloads = 1 ∧
      (ofBindings doubled).spaces.get? "shop" = some ⟨1, 4, 0⟩ := by
  refine ⟨by decide, by decide, ?_, ?_, ?_⟩
  · decide +kernel
  · decide +kernel
  · decide +kernel

theorem cluster_workloads_count_targets_doubled :
    (doubled.flatMap (·.targets)).length < 4294967296 ∧
      (ofBindings doubled).workloadsIn "east" = (aimingAt "east" doubled).length ∧
      (ofBindings doubled).workloadsIn "west" = (aimingAt "west" doubled).length + 1 := by
  have fewTargets : (doubled.flatMap (·.targets)).length < 4294967296 := by decide
  have counts := (cluster_workloads_count_targets doubled fewTargets).1
  exact ⟨fewTargets, (counts.exactly "east").2 (by decide), counts.workloads "west"⟩

end Distribution

end ReplicaAtlas
