import Mathlib.Data.List.Nodup
import ReplicaAtlas.Placement.Choice

/-!
Which clusters a placement rule accepts, said without the two loops that look for them. One loop goes through the
registered clusters and takes those that the rule accepts; the other goes through the names that the rule lists and
leaves out those of registered clusters whose labels are not the ones asked for. Over clusters of distinct names both
find the same registered clusters.
-/
namespace ReplicaAtlas.PlacementRule

def Labelled (rule : PlacementRule) (labels : Table String) : Prop :=
  ∀ wanted, rule.labels = some wanted →
    ∀ label value, wanted.get? label = some value → labels.get? label = some value

structure Accepts (rule : PlacementRule) (name : String) (labels : Table String) : Prop where
  listed : rule.clusterNames ≠ [] → name ∈ rule.clusterNames
  labelled : rule.Labelled labels

theorem labelsAgree_iff {wanted labels : Table String} :
    labelsAgree wanted labels = true ↔
      ∀ label value, wanted.get? label = some value → labels.get? label = some value := by
  simp only [labelsAgree, List.all_eq_true, beq_iff_eq, Prod.forall, Table.get?_eq_some_iff]

theorem isListed_iff {rule : PlacementRule} {name : String} :
    (rule.clusterNames.isEmpty || rule.clusterNames.contains name) = true ↔
      (rule.clusterNames ≠ [] → name ∈ rule.clusterNames) := by
  by_cases unlisted : rule.clusterNames = []
  · simp [unlisted]
  · simp [unlisted]

theorem chooses_iff {rule : PlacementRule} {name : String} {labels : Table String} :
    rule.chooses name labels = true ↔ rule.Accepts name labels := by
  unfold chooses
  rw [Bool.and_eq_true, isListed_iff]
  cases asked : rule.labels with
  | none =>
    have labelled : rule.Labelled labels := by
      intro wanted given
      simp [asked] at given
    constructor
    · intro chosen
      exact ⟨chosen.1, labelled⟩
    · intro accepts
      exact ⟨accepts.listed, rfl⟩
  | some wanted =>
    constructor
    · intro chosen
      refine ⟨chosen.1, ?_⟩
      intro other given
      obtain rfl : wanted = other := Option.some.inj (asked.symm.trans given)
      exact labelsAgree_iff.1 chosen.2
    · intro accepts
      exact ⟨accepts.listed, labelsAgree_iff.2 (accepts.labelled wanted asked)⟩

theorem mem_chosenNames {rule : PlacementRule} {clusters : List Cluster} {name : String} :
    name ∈ rule.chosenNames clusters ↔ ∃ c ∈ clusters, rule.Accepts c.name c.labels ∧ c.name = name := by
  simp only [chosenNames, List.mem_map, List.mem_filter, choosesCluster, chooses_iff, and_assoc]

theorem chosenNames_ne_nil_iff {rule : PlacementRule} {clusters : List Cluster} :
    rule.chosenNames clusters ≠ [] ↔ ∃ c ∈ clusters, rule.Accepts c.name c.labels := by
  constructor
  · intro chosen
    obtain ⟨name, member⟩ := List.exists_mem_of_ne_nil _ chosen
    obtain ⟨c, registered, accepts, -⟩ := mem_chosenNames.1 member
    exact ⟨c, registered, accepts⟩
  · intro ⟨c, registered, accepts⟩
    exact List.ne_nil_of_mem (mem_chosenNames.2 ⟨c, registered, accepts, rfl⟩)

def keeps (rule : PlacementRule) (clusters : List Cluster) (name : String) : Bool :=
  match clusters.find? (·.name = name) with
  | some cluster => rule.choosesCluster cluster
  | none => true

theorem candidates_of_unlisted {rule : PlacementRule} {clusters : List Cluster} (unlisted : rule.clusterNames = []) :
    rule.candidates clusters = rule.chosenNames clusters := by
  simp [candidates, unlisted]

theorem candidates_of_listed {rule : PlacementRule} {clusters : List Cluster} (listed : rule.clusterNames ≠ []) :
    rule.candidates clusters = rule.clusterNames.filter (rule.keeps clusters) := by
  have some : rule.clusterNames.isEmpty = false := by simpa using listed
  rw [candidates, some]
  rfl

/-- Nothing can be said against a name while no cluster is registered. -/
theorem candidates_nil (rule : PlacementRule) : rule.candidates [] = rule.clusterNames := by
  by_cases unlisted : rule.clusterNames = []
  · rw [candidates_of_unlisted unlisted, unlisted]
    rfl
  · rw [candidates_of_listed unlisted]
    exact List.filter_eq_self.2 fun _ _ => rfl

theorem candidates_sublist {rule : PlacementRule} (listed : rule.clusterNames ≠ []) (clusters : List Cluster) :
    (rule.candidates clusters).Sublist (rule.candidates []) := by
  rw [candidates_nil, candidates_of_listed listed]
  exact List.filter_sublist

section Distinct
variable {rule : PlacementRule} {clusters : List Cluster} (distinct : (clusters.map (·.name)).Nodup)

include distinct

theorem find?_registered {c : Cluster} (member : c ∈ clusters) : clusters.find? (·.name = c.name) = some c := by
  cases found : clusters.find? (·.name = c.name) with
  | none =>
    have missing := List.find?_eq_none.1 found c member
    simp at missing
  | some other =>
    have otherMember := List.mem_of_find?_eq_some found
    have called : other.name = c.name := by simpa using List.find?_some found
    rw [List.inj_on_of_nodup_map distinct otherMember member called]

theorem mem_chosenNames_of_registered {c : Cluster} (member : c ∈ clusters) :
    c.name ∈ rule.chosenNames clusters ↔ rule.Accepts c.name c.labels := by
  rw [mem_chosenNames]
  constructor
  · intro ⟨other, otherMember, accepts, called⟩
    have same := List.inj_on_of_nodup_map distinct otherMember member called
    exact same ▸ accepts
  · intro accepts
    exact ⟨c, member, accepts, rfl⟩

theorem keeps_registered {c : Cluster} (member : c ∈ clusters) :
    rule.keeps clusters c.name = true ↔ rule.Accepts c.name c.labels := by
  rw [keeps, find?_registered distinct member]
  exact chooses_iff

/-- Of the listed names just those of registered clusters with other labels are dropped. -/
theorem keeps_eq_false_iff {name : String} (listed : name ∈ rule.clusterNames) :
    rule.keeps clusters name = false ↔ ∃ c ∈ clusters, c.name = name ∧ ¬ rule.Labelled c.labels := by
  constructor
  · intro dropped
    cases found : clusters.find? (·.name = name) with
    | none => simp [keeps, found] at dropped
    | some c =>
      have called : c.name = name := by simpa using List.find?_some found
      have refused : ¬ rule.Accepts c.name c.labels := by
        rw [← chooses_iff]
        simpa [keeps, found, choosesCluster] using dropped
      refine ⟨c, List.mem_of_find?_eq_some found, called, ?_⟩
      intro labelled
      exact refused ⟨fun _ => called ▸ listed, labelled⟩
  · intro ⟨c, member, called, unlabelled⟩
    subst called
    rw [← Bool.not_eq_true, keeps_registered distinct member]
    intro accepts
    exact unlabelled accepts.labelled

theorem mem_candidates_of_registered {c : Cluster} (member : c ∈ clusters) :
    c.name ∈ rule.candidates clusters ↔ rule.Accepts c.name c.labels := by
  by_cases unlisted : rule.clusterNames = []
  · rw [candidates_of_unlisted unlisted]
    exact mem_chosenNames_of_registered distinct member
  · rw [candidates_of_listed unlisted, List.mem_filter, keeps_registered distinct member]
    constructor
    · intro ⟨_, accepts⟩
      exact accepts
    · intro accepts
      exact ⟨accepts.listed unlisted, accepts⟩

end Distinct

end ReplicaAtlas.PlacementRule
