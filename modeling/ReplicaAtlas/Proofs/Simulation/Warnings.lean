import Mathlib.Data.List.Forall2
import ReplicaAtlas.Proofs.Simulation.Conservation

/-!
What a simulation points out. Each entry without replicas and each entry above the limit has one warning, in the order
of the entries, and no other warning is given. The reasons of the entries above the limit go on with a mark, which no
allocation writes itself, and nothing else of an entry is changed.
-/
namespace ReplicaAtlas

namespace Simulation
open Allocation

/-- The warnings about entries in their order. No entry has two of them: one without replicas is above no limit. -/
inductive Warns (limits : SimulationLimits) : List Allocation → List String → Prop where
  | done : Warns limits [] []
  | idle {entry : Allocation} {entries : List Allocation} {warnings : List String} (none : entry.replicas = 0)
      (others : Warns limits entries warnings) :
      Warns limits (entry :: entries) (s!"cluster {entry.cluster} receives no replicas" :: warnings)
  | crowded {entry : Allocation} {entries : List Allocation} {warnings : List String}
      (above : limits.perCluster < entry.replicas) (others : Warns limits entries warnings) :
      Warns limits (entry :: entries)
        (s!"cluster {entry.cluster} may lack capacity for {entry.replicas} replicas" :: warnings)
  | inOrder {entry : Allocation} {entries : List Allocation} {warnings : List String} (some : entry.replicas ≠ 0)
      (within : ¬ limits.perCluster < entry.replicas) (others : Warns limits entries warnings) :
      Warns limits (entry :: entries) warnings

def EndsMarked (entry : Allocation) : Prop := capacityMark.toList <:+ entry.reason.toList

structure MarksOver (limits : SimulationLimits) (allocated entry : Allocation) : Prop where
  cluster : entry.cluster = allocated.cluster
  replicas : entry.replicas = allocated.replicas
  reason : entry.reason =
    if limits.perCluster < entry.replicas then allocated.reason ++ " (capacity warning)" else allocated.reason
  ends : EndsMarked entry ↔ limits.perCluster < entry.replicas

structure PointsOut (limits : SimulationLimits) (allocated entries : List Allocation) (warnings : List String) :
    Prop where
  marks : List.Forall₂ (MarksOver limits) allocated entries
  warns : Warns limits entries warnings
  counts : warnings.length = entries.countP (·.replicas = 0) + entries.countP (limits.perCluster < ·.replicas)

variable {limits : SimulationLimits} {entry : Allocation}

theorem not_over_of_idle (none : entry.replicas = 0) : ¬ limits.perCluster < entry.replicas := by
  rw [none]
  exact UInt32.not_lt_zero

theorem isOver_iff : isOver limits entry = true ↔ limits.perCluster < entry.replicas := decide_eq_true_iff

theorem warningsOf_of_idle (none : entry.replicas = 0) :
    warningsOf limits entry = [s!"cluster {entry.cluster} receives no replicas"] := by
  rw [warningsOf, if_pos none, if_neg (mt isOver_iff.1 (not_over_of_idle none)), List.append_nil]

theorem warningsOf_of_over (above : limits.perCluster < entry.replicas) :
    warningsOf limits entry = [s!"cluster {entry.cluster} may lack capacity for {entry.replicas} replicas"] := by
  have some : entry.replicas ≠ 0 := fun none => not_over_of_idle none above
  rw [warningsOf, if_neg some, if_pos (isOver_iff.2 above), List.nil_append]

theorem warningsOf_of_neither (some : entry.replicas ≠ 0) (within : ¬ limits.perCluster < entry.replicas) :
    warningsOf limits entry = [] := by
  rw [warningsOf, if_neg some, if_neg (mt isOver_iff.1 within), List.append_nil]

theorem warns_of_warningsOf (limits : SimulationLimits) (entries : List Allocation) :
    Warns limits entries (entries.flatMap (warningsOf limits)) := by
  induction entries with
  | nil => exact .done
  | cons entry rest ih =>
    rw [List.flatMap_cons]
    by_cases none : entry.replicas = 0
    · rw [warningsOf_of_idle none]
      exact .idle none ih
    · by_cases above : limits.perCluster < entry.replicas
      · rw [warningsOf_of_over above]
        exact .crowded above ih
      · rw [warningsOf_of_neither none above]
        exact .inOrder none above ih

/-- Warnings look at nothing of an entry but its cluster and its replicas. -/
theorem warningsOf_marked (limits : SimulationLimits) (entry : Allocation) :
    warningsOf limits (marked limits entry) = warningsOf limits entry := by
  unfold warningsOf isOver
  rw [marked_cluster, marked_replicas]

theorem warns_checked (limits : SimulationLimits) (allocated : List Allocation) :
    Warns limits (checked limits allocated).1 (checked limits allocated).2 := by
  have warns := warns_of_warningsOf limits (allocated.map (marked limits))
  simp only [List.flatMap_map, warningsOf_marked] at warns
  exact warns

theorem Warns.length_eq {entries : List Allocation} {warnings : List String}
    (warns : Warns limits entries warnings) :
    warnings.length = entries.countP (·.replicas = 0) + entries.countP (limits.perCluster < ·.replicas) := by
  induction warns with
  | done => rfl
  | idle none others ih =>
    have within : ¬ limits.perCluster < _ := not_over_of_idle none
    rw [List.length_cons, List.countP_cons, List.countP_cons, if_pos (by simpa using none),
      if_neg (by simpa using within), ih]
    omega
  | crowded above others ih =>
    have some := mt not_over_of_idle (not_not_intro above)
    rw [List.length_cons, List.countP_cons, List.countP_cons, if_neg (by simpa using some),
      if_pos (by simpa using above), ih]
    omega
  | inOrder some within others ih =>
    rw [List.countP_cons_of_neg (by simpa using some), List.countP_cons_of_neg (by simpa using within), ih]

theorem not_marked_of_last {entry : Allocation} {before after : String} {c : Char}
    (reason : entry.reason = before ++ after) (last : after.toList.getLast? = some c) (other : c ≠ ')') :
    ¬ EndsMarked entry := by
  rintro ⟨start, text⟩
  have ends : entry.reason.toList.getLast? = some c := by
    rw [reason, String.toList_append, List.getLast?_append, last]
    rfl
  rw [← text, List.getLast?_append] at ends
  exact other (Option.some.inj ends).symm

theorem weightedFrom_reason {replicas : UInt32} {weights : Table UInt32} {total given : Nat} {clusters : List String}
    {entry : Allocation} (member : entry ∈ weightedFrom replicas weights total given clusters) :
    ∃ weight : UInt32, entry.reason = s!"divided by weight {weight}/{total}" := by
  induction clusters generalizing given with
  | nil => exact absurd member List.not_mem_nil
  | cons cluster rest ih =>
    rcases List.mem_cons.1 member with rfl | later
    · exact ⟨_, rfl⟩
    · exact ih later

theorem evenFrom_reason {base extra count : Nat} {clusters : List String} {entry : Allocation}
    (member : entry ∈ evenFrom base extra count clusters) :
    entry.reason = s!"divided evenly across {count} clusters" := by
  induction clusters generalizing extra with
  | nil => exact absurd member List.not_mem_nil
  | cons cluster rest ih =>
    rcases List.mem_cons.1 member with rfl | later
    · rfl
    · exact ih later

theorem not_marked_of_allocate {replicas : UInt32} {clusters : List String} {mode : AllocationMode}
    {entry : Allocation} (member : entry ∈ allocate replicas clusters mode) : ¬ EndsMarked entry := by
  cases mode with
  | duplicated =>
    obtain ⟨cluster, -, rfl⟩ := List.mem_map.1 member
    exact not_marked_of_last rfl (show " replicas".toList.getLast? = some 's' from rfl) (by decide)
  | weighted weights =>
    -- The reason ends with a digit of the total weight.
    obtain ⟨weight, reason⟩ := weightedFrom_reason member
    have digits := Nat.toDigits_ne_nil (n := totalWeight weights clusters) (b := 10)
    have digit := Nat.isDigit_of_mem_toDigits (by decide) (by decide) (List.getLast_mem digits)
    refine not_marked_of_last reason ?_ (c := (Nat.toDigits 10 (totalWeight weights clusters)).getLast digits) ?_
    · rw [Nat.toString_eq_ofList_toDigits, String.toList_ofList, List.getLast?_eq_getLast_of_ne_nil digits]
    · intro same
      rw [same] at digit
      exact absurd digit (by decide)
  | uniform =>
    exact not_marked_of_last (evenFrom_reason member) (show " clusters".toList.getLast? = some 's' from rfl) (by decide)

theorem marksOver_marked (limits : SimulationLimits) {allocated : Allocation} (unmarked : ¬ EndsMarked allocated) :
    MarksOver limits allocated (marked limits allocated) := by
  have replicas := marked_replicas limits allocated
  constructor
  case cluster => exact marked_cluster limits allocated
  case replicas => exact replicas
  case reason =>
    rw [replicas]
    by_cases above : limits.perCluster < allocated.replicas
    · rw [if_pos above, marked, if_pos (isOver_iff.2 above)]
      rfl
    · rw [if_neg above, marked, if_neg (mt isOver_iff.1 above)]
  case ends =>
    rw [replicas]
    by_cases above : limits.perCluster < allocated.replicas
    · refine iff_of_true ⟨allocated.reason.toList, ?_⟩ above
      rw [marked, if_pos (isOver_iff.2 above), String.toList_append]
    · rw [marked, if_neg (mt isOver_iff.1 above)]
      exact iff_of_false unmarked above

theorem pointsOut_allocate (limits : SimulationLimits) (replicas : UInt32) (clusters : List String)
    (mode : AllocationMode) :
    PointsOut limits (allocate replicas clusters mode) (checked limits (allocate replicas clusters mode)).1
      (checked limits (allocate replicas clusters mode)).2 := by
  have warns := warns_checked limits (allocate replicas clusters mode)
  refine ⟨List.forall₂_map_right_iff.2 (List.forall₂_same.2 ?_), warns, warns.length_eq⟩
  intro entry member
  exact marksOver_marked limits (not_marked_of_allocate member)

/-- Every feasible answer that has a target points out just the entries without replicas and those above the limit,
and apart from the marks its entries are those of the allocation. -/
theorem warnings_point_out_entries (limits : SimulationLimits) :
    (∀ (request : PlacementRequest) (clusters : List Cluster),
      request.placement.chosenNames clusters ≠ [] → (simulatePlacement request clusters limits).feasible = true →
      ∃ mode, mode? request.placement.strategy request.placement.staticWeights = some mode ∧
        PointsOut limits (allocate request.workload.replicas (request.placement.chosenNames clusters) mode)
          (simulatePlacement request clusters limits).allocation
          (simulatePlacement request clusters limits).warnings) ∧
    ∀ request : StrategyRequest, request.clusters ≠ [] → (simulateStrategy request limits).feasible = true →
      ∃ mode, mode? request.strategy request.weights = some mode ∧
        PointsOut limits (allocate request.workload.replicas request.clusters mode)
          (simulateStrategy request limits).allocation (simulateStrategy request limits).warnings := by
  constructor
  · intro request clusters targeted feasible
    rw [simulatePlacement_feasible limits targeted] at feasible
    obtain ⟨mode, selected⟩ := Option.isSome_iff_exists.1 feasible
    refine ⟨mode, selected, ?_⟩
    rw [simulatePlacement_of_mode limits targeted selected]
    exact pointsOut_allocate limits _ _ mode
  · intro request targeted feasible
    rw [simulateStrategy_feasible limits targeted] at feasible
    obtain ⟨strategy, named⟩ := Option.isSome_iff_exists.1 feasible
    obtain ⟨mode, selected, answer⟩ := simulateStrategy_of_named limits targeted named
    refine ⟨mode, selected, ?_⟩
    rw [answer]
    exact pointsOut_allocate limits _ _ mode

def lopsided : StrategyRequest :=
  ⟨⟨"Deployment", 12⟩, ["a", "b", "a"], "Divided", (Table.empty.insert "a" 0).insert "b" 5⟩

def nothingAsked : PlacementRequest := ⟨⟨"Deployment", 0⟩, .unrestricted⟩

theorem warnings_point_out_entries_of_lopsided :
    let divided := simulateStrategy lopsided ⟨0⟩
    let east : Cluster := ⟨"east", .empty, true, "", [], .none, ⟨0, 0⟩⟩
    let placed := simulatePlacement nothingAsked [east] ⟨0⟩
    (lopsided.clusters ≠ [] ∧ divided.feasible = true) ∧
      (nothingAsked.placement.chosenNames [east] ≠ [] ∧ placed.feasible = true) ∧
      (∃ mode, PointsOut ⟨0⟩ (allocate 12 ["a", "b", "a"] mode) divided.allocation divided.warnings) ∧
      (∃ mode, PointsOut ⟨0⟩ (allocate 0 ["east"] mode) placed.allocation placed.warnings) ∧
      divided.warnings = ["cluster a receives no replicas", "cluster b may lack capacity for 12 replicas",
        "cluster a receives no replicas"] ∧
      divided.allocation.map (·.reason) =
        ["divided by weight 0/5", "divided by weight 5/5 (capacity warning)", "divided by weight 0/5"] := by
  intro divided east placed
  have targeted : lopsided.clusters ≠ [] := by decide
  have chosen : nothingAsked.placement.chosenNames [east] ≠ [] := by decide
  have points := warnings_point_out_entries ⟨0⟩
  obtain ⟨byWeight, -, dividedPoints⟩ := points.2 lopsided targeted (by decide +kernel)
  obtain ⟨mode, -, placedPoints⟩ := points.1 nothingAsked [east] chosen (by decide +kernel)
  refine ⟨⟨targeted, by decide +kernel⟩, ⟨chosen, by decide +kernel⟩, ⟨byWeight, dividedPoints⟩,
    ⟨mode, placedPoints⟩, ?_, ?_⟩
  · decide +kernel
  · decide +kernel

end Simulation

end ReplicaAtlas
