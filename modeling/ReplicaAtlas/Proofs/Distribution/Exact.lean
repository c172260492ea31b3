import ReplicaAtlas.Proofs.Distribution.Accounts
import ReplicaAtlas.Proofs.Table.Listing

/-!
Distributions are exact. No count leaves its machine word while there are fewer bindings and fewer targets than
words, rows stand for the clusters and the namespaces that occur and for no others, in the order of the bytes of
their names, and every sum is the exact one or the largest word. The order of the bindings plays no part.
-/
namespace ReplicaAtlas

namespace Tally

/-- So many workloads, and sums that are exact or, if less, the largest word. -/
structure Counts (t : Tally) (workloads : Nat) (shares : List Share) : Prop where
  workloads : t.workloads = workloads
  planned : t.planned.toNat = min (Share.plannedTotal shares) 4294967295
  ready : t.ready.toNat = min (Share.readyTotal shares) 4294967295

theorem counts_of (workloads : Nat) (shares : List Share) : (of workloads shares).Counts workloads shares where
  workloads := rfl
  planned := Replicas.toNat_capped _
  ready := Replicas.toNat_capped _

theorem counts_of_row? {t : Tally} {workloads : Nat} {shares : List Share}
    (present : row? workloads shares = some t) : t.Counts workloads shares := by
  unfold row? at present
  split at present
  case isTrue none => exact nomatch present
  case isFalse some =>
    obtain rfl := Option.some.inj present
    exact counts_of workloads shares

end Tally

namespace Distribution

theorem checkedUpdate_ok {rows : Table Tally} {name : String} {change : Tally → Checked Tally}
    {result : Tally → Tally}
    (succeeds : change ((rows.get? name).getD .zero) = .ok (result ((rows.get? name).getD .zero))) :
    checkedUpdate rows name change = .ok (update rows name result) := by
  rw [checkedUpdate, succeeds]
  rfl

theorem checkedCountPhase_ok {d : Distribution} {phase : Phase} (fits : d.phaseCount phase + 1 < 4294967296) :
    d.checkedCountPhase phase = .ok (d.countPhase phase) := by
  have next := Word.next_ok fits
  cases phase with
  | scheduled =>
    rw [phaseCount] at next
    rw [checkedCountPhase, next]
    rfl
  | pending =>
    rw [phaseCount] at next
    rw [checkedCountPhase, next]
    rfl
  | failed =>
    rw [phaseCount] at next
    rw [checkedCountPhase, next]
    rfl

namespace Accounts
variable {bindings : List Binding} {shares : List Share} {d : Distribution}

theorem checkedEnter_ok (accounts : Accounts bindings shares d) (b : Binding)
    (room : bindings.length + 1 < 4294967296) : checkedEnter d b = .ok (d.entered b) := by
  have totals : d.totals.workloads + 1 < 4294967296 := by
    rw [accounts.totals]
    exact room
  have phase : d.phaseCount b.phase + 1 < 4294967296 := by
    have bound : bindings.countP (·.phase = b.phase) ≤ bindings.length := List.countP_le_length
    rw [accounts.phases]
    omega
  have row : ((d.spaces.get? b.space).getD .zero).workloads + 1 < 4294967296 := by
    have bound : (inSpace b.space bindings).length ≤ bindings.length := List.length_filter_le ..
    rw [accounts.spaceRow]
    exact Nat.lt_of_le_of_lt (Nat.succ_le_succ bound) room
  rw [checkedEnter, Tally.checkedAddWorkload_ok totals, checkedCountPhase_ok phase,
    checkedUpdate_ok (Tally.checkedAddWorkload_ok row)]
  rfl

theorem checkedAddTarget_ok (accounts : Accounts bindings shares d) (b : Binding) (target : Target)
    (room : shares.length + 1 < 4294967296) : checkedAddTarget b d target = .ok (addTarget b d target) := by
  have row : ((d.clusters.get? target.cluster).getD .zero).workloads + 1 < 4294967296 := by
    have bound : (Share.inCluster target.cluster shares).length ≤ shares.length := List.length_filter_le ..
    rw [accounts.clusterRow]
    exact Nat.lt_of_le_of_lt (Nat.succ_le_succ bound) room
  have clusters : checkedUpdate d.clusters target.cluster (fun row => do
      let row ← row.checkedAddWorkload
      return row.addReplicas target.replicas (b.actualReplicas target.cluster)) =
      .ok (update d.clusters target.cluster fun row =>
        row.addWorkload.addReplicas target.replicas (b.actualReplicas target.cluster)) := by
    refine checkedUpdate_ok ?_
    rw [Tally.checkedAddWorkload_ok row]
    rfl
  unfold checkedAddTarget
  dsimp only
  rw [clusters]
  rfl

theorem checkedAddTargets_ok (accounts : Accounts bindings shares d) {b : Binding} (bound : b ∈ bindings)
    {targets : List Target} (room : shares.length + targets.length < 4294967296) :
    targets.foldlM (checkedAddTarget b) d = .ok (targets.foldl (addTarget b) d) := by
  induction targets generalizing shares d with
  | nil => rfl
  | cons target targets ih =>
    rw [List.length_cons] at room
    have step := accounts.checkedAddTarget_ok b target (by omega)
    have rest := ih (accounts.add bound target)
    rw [List.length_append, List.length_singleton] at rest
    rw [List.foldlM_cons, step, List.foldl_cons]
    exact rest (by omega)

theorem checkedAddBinding_ok (accounts : Accounts bindings shares d) (b : Binding)
    (room : bindings.length + 1 < 4294967296) (targetRoom : shares.length + b.targets.length < 4294967296) :
    checkedAddBinding d b = .ok (d.addBinding b) := by
  have targets := (accounts.enter b).checkedAddTargets_ok (List.mem_append_right _ List.mem_cons_self) targetRoom
  rw [checkedAddBinding, accounts.checkedEnter_ok b room, addBinding_eq]
  exact targets

theorem checkedAddBindings_ok (accounts : Accounts bindings shares d) {more : List Binding}
    (room : bindings.length + more.length < 4294967296)
    (targetRoom : shares.length + (more.flatMap (·.targets)).length < 4294967296) :
    more.foldlM checkedAddBinding d = .ok (more.foldl Distribution.addBinding d) := by
  induction more generalizing bindings shares d with
  | nil => rfl
  | cons b more ih =>
    rw [List.length_cons] at room
    rw [List.flatMap_cons, List.length_append] at targetRoom
    have step := accounts.checkedAddBinding_ok b (by omega) (by omega)
    have rest := ih (accounts.addBinding b)
    have counted : b.shares.length = b.targets.length := List.length_map ..
    rw [List.length_append, List.length_singleton, List.length_append, counted] at rest
    rw [List.foldlM_cons, step, List.foldl_cons]
    exact rest (by omega) (by omega)

end Accounts

theorem checkedOfBindings_ok {bindings : List Binding} (few : bindings.length < 4294967296)
    (fewTargets : (bindings.flatMap (·.targets)).length < 4294967296) :
    checkedOfBindings bindings = .ok (ofBindings bindings) := by
  refine Accounts.start.checkedAddBindings_ok ?_ ?_
  · rwa [List.length_nil, Nat.zero_add]
  · rwa [List.length_nil, Nat.zero_add]

theorem phases_add_up (bindings : List Binding) :
    bindings.countP (·.phase = .scheduled) + bindings.countP (·.phase = .pending) +
      bindings.countP (·.phase = .failed) = bindings.length := by
  induction bindings with
  | nil => rfl
  | cons b bindings ih =>
    simp only [List.countP_cons, List.length_cons, ← ih]
    cases b.phase <;> simp <;> omega

theorem mem_sharesOf {bindings : List Binding} {share : Share} :
    share ∈ sharesOf bindings ↔ ∃ b ∈ bindings, ∃ target ∈ b.targets, b.share target = share := by
  simp only [sharesOf, Binding.shares, List.mem_flatMap, List.mem_map]

theorem mem_clusters_iff (bindings : List Binding) (name : String) :
    name ∈ (ofBindings bindings).clusters.keys ↔ ∃ b ∈ bindings, ∃ target ∈ b.targets, target.cluster = name := by
  rw [Table.mem_keys, (accounts_ofBindings bindings).clusters, Tally.isSome_row?, Nat.ne_zero_iff_zero_lt,
    List.length_pos_iff_exists_mem]
  simp only [Share.inCluster, List.mem_filter, mem_sharesOf, decide_eq_true_eq]
  constructor
  · rintro ⟨_, ⟨b, bound, target, aimed, rfl⟩, here⟩
    exact ⟨b, bound, target, aimed, here⟩
  · rintro ⟨b, bound, target, aimed, here⟩
    exact ⟨b.share target, ⟨b, bound, target, aimed, rfl⟩, here⟩

theorem mem_spaces_iff (bindings : List Binding) (name : String) :
    name ∈ (ofBindings bindings).spaces.keys ↔ ∃ b ∈ bindings, b.space = name := by
  rw [Table.mem_keys, (accounts_ofBindings bindings).spaces, Tally.isSome_row?, Nat.ne_zero_iff_zero_lt,
    List.length_pos_iff_exists_mem]
  simp only [inSpace, List.mem_filter, decide_eq_true_eq]

structure Exact (bindings : List Binding) (d : Distribution) : Prop where
  totals : d.totals.Counts bindings.length (sharesOf bindings)
  phases : d.scheduled + d.pending + d.failed = bindings.length
  scheduled : d.scheduled = (bindings.filter (·.phaseReport.phase = .scheduled)).length
  pending : d.pending = (bindings.filter (·.phaseReport.phase = .pending)).length
  failed : d.failed = (bindings.filter (·.phaseReport.phase = .failed)).length
  clustersAscending : d.clusters.keys.Pairwise fun a b => Text.Utf8.bytes a < Text.Utf8.bytes b
  clusterNames : ∀ name, name ∈ d.clusters.keys ↔ ∃ b ∈ bindings, ∃ target ∈ b.targets, target.cluster = name
  clusterRows : ∀ row ∈ d.clusters.entries,
    row.2.Counts (Share.inCluster row.1 (sharesOf bindings)).length (Share.inCluster row.1 (sharesOf bindings))
  spacesAscending : d.spaces.keys.Pairwise fun a b => Text.Utf8.bytes a < Text.Utf8.bytes b
  spaceNames : ∀ name, name ∈ d.spaces.keys ↔ ∃ b ∈ bindings, b.space = name
  spaceRows : ∀ row ∈ d.spaces.entries,
    row.2.Counts (inSpace row.1 bindings).length (Share.inSpace row.1 (sharesOf bindings))

theorem exact_ofBindings (bindings : List Binding) : Exact bindings (ofBindings bindings) := by
  have accounts := accounts_ofBindings bindings
  have counted (phase : Phase) :
      (ofBindings bindings).phaseCount phase = (bindings.filter (·.phase = phase)).length := by
    rw [accounts.phases, List.countP_eq_length_filter]
  constructor
  case totals =>
    rw [accounts.totals]
    exact Tally.counts_of ..
  case phases =>
    have sum := phases_add_up bindings
    rw [← accounts.phases, ← accounts.phases, ← accounts.phases] at sum
    exact sum
  case scheduled => exact counted .scheduled
  case pending => exact counted .pending
  case failed => exact counted .failed
  case clustersAscending => exact Table.keys_ascending _
  case clusterNames => exact mem_clusters_iff bindings
  case clusterRows =>
    intro row member
    have found := (Table.get?_eq_some_iff _ row.1 row.2).2 member
    rw [accounts.clusters] at found
    exact Tally.counts_of_row? found
  case spacesAscending => exact Table.keys_ascending _
  case spaceNames => exact mem_spaces_iff bindings
  case spaceRows =>
    intro row member
    have found := (Table.get?_eq_some_iff _ row.1 row.2).2 member
    rw [accounts.spaces] at found
    exact Tally.counts_of_row? found

/-- With fewer than 2^32 bindings and fewer than 2^32 targets no count leaves its word, and the distribution tells
of its bindings exactly what there is to be counted and summed up, in whatever order they come. -/
theorem distribution_is_exact (bindings : List Binding) (few : bindings.length < 4294967296)
    (fewTargets : (bindings.flatMap (·.targets)).length < 4294967296) :
    checkedOfBindings bindings = .ok (ofBindings bindings) ∧ Exact bindings (ofBindings bindings) ∧
      ∀ others, others.Perm bindings → ofBindings others = ofBindings bindings :=
  ⟨checkedOfBindings_ok few fewTargets, exact_ofBindings bindings, fun _ same => ofBindings_perm same⟩

def crowded : List Binding :=
  [⟨"shop", "web", WorkloadRef.layout.blank, [⟨"west", 4294967295⟩, ⟨"east", 1⟩, ⟨"west", 2⟩],
      [⟨"east", some (.object [("readyReplicas", .number (.int 1))])⟩], []⟩,
    ⟨"", "idle", WorkloadRef.layout.blank, [], [], []⟩]

theorem distribution_is_exact_crowded :
    crowded.length < 4294967296 ∧ (crowded.flatMap (·.targets)).length < 4294967296 ∧
      checkedOfBindings crowded = .ok (ofBindings crowded) ∧
      (ofBindings crowded).totals.planned.toNat = 4294967295 ∧
      (ofBindings crowded).clusters.keys = ["east", "west"] ∧
      (ofBindings crowded).clusters.get? "west" = some ⟨2, 4294967295, 0⟩ ∧
      ofBindings crowded.reverse = ofBindings crowded := by
  have few : crowded.length < 4294967296 := by decide
  have fewTargets : (crowded.flatMap (·.targets)).length < 4294967296 := by decide
  obtain ⟨words, exact, anyOrder⟩ := distribution_is_exact crowded few fewTargets
  refine ⟨few, fewTargets, words, exact.totals.planned.trans ?_, ?_, ?_, anyOrder _ (List.reverse_perm _)⟩
  · decide
  · decide +kernel
  · decide +kernel

end Distribution

end ReplicaAtlas
