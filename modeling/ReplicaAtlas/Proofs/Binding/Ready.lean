import Mathlib.Data.List.Perm.Subperm
import ReplicaAtlas.Proofs.Binding.Lookup
import ReplicaAtlas.Proofs.Binding.Replicas
import ReplicaAtlas.Proofs.StatusCount

/-!
Ready replicas, in a workload's summary and cluster by cluster. The summary adds up one field of all reports, the
placements read for every target the first report of its cluster, and more fields of it. Where there is one report for
a cluster at most, and for targets only, the summary never tells more than the placements, and it tells the same if no
target is repeated and no report makes up for the field by another one.
-/
namespace ReplicaAtlas

namespace StatusCount

/-- How many are ready is not told, or not as a count, and that some are available is. -/
def OnlyAvailable (payload : Option Json) : Prop :=
  read? payload "readyReplicas" = none ∧ ∃ c, read? payload "availableReplicas" = some c ∧ c ≠ 0

theorem field_ready_le (payload : Option Json) :
    (field payload "readyReplicas").toNat ≤ (replicas payload).toNat := by
  rw [field, replicas_eq]
  cases read? payload "readyReplicas" with
  | none => exact Nat.zero_le _
  | some c => exact Nat.le_refl _

theorem field_ready_eq {payload : Option Json} (told : ¬ OnlyAvailable payload) :
    field payload "readyReplicas" = replicas payload := by
  rw [field, replicas_eq]
  cases ready : read? payload "readyReplicas" with
  | some c => rfl
  | none =>
    cases available : read? payload "availableReplicas" with
    | none => rfl
    | some c =>
      by_contra differs
      refine told ⟨ready, c, available, fun none => differs ?_⟩
      rw [none]
      rfl

end StatusCount

namespace Replicas

theorem total_le_of_subperm {α : Type} (count : α → UInt32) {items others : List α}
    (within : items.Subperm others) : total (items.map count) ≤ total (others.map count) := by
  obtain ⟨chosen, same, sub⟩ := within
  rw [← total_perm (same.map count)]
  exact ((sub.map count).map _).sum_le_sum fun _ _ => Nat.zero_le _

theorem total_le_total {α : Type} {items : List α} {small large : α → UInt32}
    (le : ∀ item ∈ items, (small item).toNat ≤ (large item).toNat) :
    total (items.map small) ≤ total (items.map large) := by
  rw [total, total, List.map_map, List.map_map]
  exact List.sum_le_sum le

theorem total_filter_of_zero {α : Type} (keep : α → Bool) (count : α → UInt32) {items : List α}
    (zero : ∀ item ∈ items, keep item = false → count item = 0) :
    total ((items.filter keep).map count) = total (items.map count) := by
  induction items with
  | nil => rfl
  | cons item rest ih =>
    have others := ih fun other member => zero other (List.mem_cons_of_mem _ member)
    cases kept : keep item with
    | true => rw [List.filter_cons_of_pos kept, List.map_cons, List.map_cons, total_cons, total_cons, others]
    | false =>
      have none := zero item List.mem_cons_self kept
      rw [List.filter_cons_of_neg (by simp [kept]), List.map_cons, total_cons, none, UInt32.toNat_zero, Nat.zero_add,
        others]

end Replicas

namespace Binding
open Replicas StatusCount

/-- There is one report for a cluster at most, and for the targets only. -/
structure ReportsTargets (b : Binding) : Prop where
  distinct : (b.reports.map (·.cluster)).Nodup
  targeted : ∀ r ∈ b.reports, ∃ t ∈ b.targets, t.cluster = r.cluster

variable {b : Binding}

theorem payload?_of_mem (distinct : (b.reports.map (·.cluster)).Nodup) {r : StatusReport}
    (member : r ∈ b.reports) : b.payload? r.cluster = r.payload := by
  unfold payload? report?
  cases found : b.reports.find? (·.cluster = r.cluster) with
  | none => exact absurd (List.find?_eq_none.1 found r member) (by simp)
  | some first =>
    have called : first.cluster = r.cluster := by simpa using List.find?_some found
    rw [List.inj_on_of_nodup_map distinct (List.mem_of_find?_eq_some found) member called]
    rfl

theorem actualReplicas_of_unreported {cluster : String} (unreported : cluster ∉ b.reports.map (·.cluster)) :
    b.actualReplicas cluster = 0 := by
  have absent : b.report? cluster = none := by
    refine List.find?_eq_none.2 fun r member => ?_
    simpa using fun called => unreported (List.mem_map.2 ⟨r, member, called⟩)
  rw [actualReplicas, payload?, absent]
  rfl

theorem actualReplicas_of_reports (distinct : (b.reports.map (·.cluster)).Nodup) :
    (b.reports.map (·.cluster)).map b.actualReplicas = b.reports.map fun r => StatusCount.replicas r.payload := by
  rw [List.map_map]
  refine List.map_congr_left fun r member => ?_
  rw [Function.comp_apply, actualReplicas, payload?_of_mem distinct member]

theorem placements_actual (b : Binding) (weights : Table UInt32) :
    (b.placements weights).map (·.actual) = (b.targets.map (·.cluster)).map b.actualReplicas := by
  rw [placements, List.map_map, List.map_map]
  rfl

theorem readyReplicas_eq_capped (b : Binding) :
    b.readyReplicas = capped (total (b.reports.map fun r => StatusCount.field r.payload "readyReplicas")) := by
  apply UInt32.toNat_inj.1
  rw [readyReplicas, toNat_sum, toNat_capped]

namespace ReportsTargets

theorem subset (reports : b.ReportsTargets) : b.reports.map (·.cluster) ⊆ b.targets.map (·.cluster) := by
  intro cluster member
  obtain ⟨r, inside, rfl⟩ := List.mem_map.1 member
  exact List.mem_map.2 (reports.targeted r inside)

theorem total_ready_le (reports : b.ReportsTargets) :
    total (b.reports.map fun r => StatusCount.field r.payload "readyReplicas") ≤
      total ((b.targets.map (·.cluster)).map b.actualReplicas) := by
  calc total (b.reports.map fun r => StatusCount.field r.payload "readyReplicas")
      ≤ total (b.reports.map fun r => StatusCount.replicas r.payload) :=
        total_le_total fun r _ => StatusCount.field_ready_le r.payload
    _ = total ((b.reports.map (·.cluster)).map b.actualReplicas) := by
        rw [actualReplicas_of_reports reports.distinct]
    _ ≤ total ((b.targets.map (·.cluster)).map b.actualReplicas) :=
        total_le_of_subperm _ (reports.distinct.subperm reports.subset)

theorem total_ready_eq (reports : b.ReportsTargets) (distinct : (b.targets.map (·.cluster)).Nodup)
    (told : ∀ r ∈ b.reports, ¬ OnlyAvailable r.payload) :
    total (b.reports.map fun r => StatusCount.field r.payload "readyReplicas") =
      total ((b.targets.map (·.cluster)).map b.actualReplicas) := by
  -- Only the reported targets have replicas, and each of them has just one report.
  have reported : ((b.targets.map (·.cluster)).filter fun name => name ∈ b.reports.map (·.cluster)).Perm
      (b.reports.map (·.cluster)) := by
    refine (List.perm_ext_iff_of_nodup (distinct.filter _) reports.distinct).2 fun name => ?_
    rw [List.mem_filter, decide_eq_true_iff]
    exact ⟨fun member => member.2, fun member => ⟨reports.subset member, member⟩⟩
  calc total (b.reports.map fun r => StatusCount.field r.payload "readyReplicas")
      = total (b.reports.map fun r => StatusCount.replicas r.payload) :=
        congrArg total (List.map_congr_left fun r member => StatusCount.field_ready_eq (told r member))
    _ = total ((b.reports.map (·.cluster)).map b.actualReplicas) := by
        rw [actualReplicas_of_reports reports.distinct]
    _ = total (((b.targets.map (·.cluster)).filter fun name => name ∈ b.reports.map (·.cluster)).map
          b.actualReplicas) := total_perm (reported.map _).symm
    _ = total ((b.targets.map (·.cluster)).map b.actualReplicas) := by
        refine total_filter_of_zero _ _ fun name _ unreported => ?_
        exact actualReplicas_of_unreported (of_decide_eq_false unreported)

end ReportsTargets

theorem lookUp_placements {bindings : List Binding} {w : Workload} {weights : Table UInt32}
    (found : (lookUp bindings w weights).binding = some b) :
    (lookUp bindings w weights).placements = b.placements weights := by
  unfold lookUp at found ⊢
  split at found
  · exact absurd found.symm (Option.some_ne_none b)
  · rw [Option.some.inj found]

/-- Wherever a workload's binding is found, the summary of the workload tells no more ready replicas than its
placements have together, and it tells as many if also the targets are distinct and every report that counts available
replicas counts the ready ones. -/
theorem ready_replicas_within_actual {bindings : List Binding} {w : Workload} {weights : Table UInt32}
    (found : (lookUp bindings w weights).binding = some b) (reports : b.ReportsTargets) :
    let summary := WorkloadSummary.of w (lookUp bindings w weights).binding
    let actual := capped (total ((lookUp bindings w weights).placements.map (·.actual)))
    summary.ready ≤ actual ∧
      ((b.targets.map (·.cluster)).Nodup → (∀ r ∈ b.reports, ¬ OnlyAvailable r.payload) →
        summary.ready = actual) := by
  intro summary actual
  have ready : summary.ready = b.readyReplicas := by
    simp only [summary, found]
    rfl
  have placed : actual = capped (total ((b.targets.map (·.cluster)).map b.actualReplicas)) := by
    simp only [actual]
    rw [lookUp_placements found, placements_actual]
  rw [ready, placed, readyReplicas_eq_capped]
  constructor
  · rw [UInt32.le_iff_toNat_le, toNat_capped, toNat_capped]
    exact min_le_min_right _ reports.total_ready_le
  · intro distinct told
    rw [reports.total_ready_eq distinct told]

def partlyReported : Binding where
  space := "shop"
  name := "web"
  resource := ⟨"apps/v1", "Deployment", "shop", "web"⟩
  targets := [⟨"east", 3⟩, ⟨"west", 2⟩, ⟨"north", 1⟩]
  reports := [⟨"west", some (.object [("readyReplicas", .nat 4294967295)])⟩,
    ⟨"east", some (.object [("availableReplicas", .nat 7), ("readyReplicas", .float 2.0)])⟩]
  conditions := []

theorem ready_replicas_within_actual_partlyReported :
    let w : Workload := ⟨"shop", "web", "Deployment", "apps/v1"⟩
    let found := lookUp [⟨"shop", "api", ⟨"", "", "", ""⟩, [], [], []⟩, partlyReported] w .empty
    found.binding = some partlyReported ∧ partlyReported.ReportsTargets ∧
      (partlyReported.targets.map (·.cluster)).Nodup ∧
      (∀ r ∈ partlyReported.reports, ¬ OnlyAvailable r.payload) ∧
      (WorkloadSummary.of w found.binding).ready = capped (total (found.placements.map (·.actual))) ∧
      found.placements.map (·.actual) = [2, 4294967295, 0] := by
  intro w found
  have bound : found.binding = some partlyReported := rfl
  have reports : partlyReported.ReportsTargets := by
    constructor
    case distinct => decide
    case targeted => decide
  have distinct : (partlyReported.targets.map (·.cluster)).Nodup := by decide
  have told : ∀ r ∈ partlyReported.reports, ¬ OnlyAvailable r.payload := by
    rintro r member ⟨unread, -⟩
    simp only [partlyReported, List.mem_cons, List.not_mem_nil, or_false] at member
    rcases member with rfl | rfl
    · exact absurd unread (by decide +kernel)
    · exact absurd unread (by decide +kernel)
  obtain ⟨-, equal⟩ := ready_replicas_within_actual bound reports
  exact ⟨bound, reports, distinct, told, equal distinct told, by decide +kernel⟩

end Binding

end ReplicaAtlas
