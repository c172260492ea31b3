import ReplicaAtlas.Member.Survey
import Mathlib.Data.List.Forall2

/-!
What the outcomes of a survey say. The outcome of a cluster is a failure exactly if the cluster has no client or
does not list its nodes in time; otherwise it shows, in the order of the listing, the nodes on which a pod of the
workload is found, or all of them when potential places are asked for.
-/
namespace ReplicaAtlas

def Timed.Delivers {A : Type} (reply : Timed A) (timeout : Duration) (items : A) : Prop :=
  reply.delay.milliseconds ≤ timeout.milliseconds ∧ reply.answer = .ok items

theorem Timed.within_eq_ok_iff {A : Type} (reply : Timed A) (operation : String) (timeout : Duration)
    (items : A) : reply.within operation timeout = .ok items ↔ reply.Delivers timeout items := by
  unfold Timed.within Timed.Delivers
  split
  case isTrue inTime => simp [inTime]
  case isFalse late => simp [late]

namespace Survey

theorem outcome_of_unknown {survey : Survey} {members : Table Member} {cluster : String}
    (absent : members.get? cluster = none) :
    survey.outcome members cluster = ⟨cluster, [], some (.noClient cluster)⟩ := by
  unfold outcome
  rw [absent]

theorem outcome_of_refused {survey : Survey} {members : Table Member} {cluster : String} {member : Member}
    {fault : MemberFault} (present : members.get? cluster = some member)
    (refused : survey.nodes member = .error fault) :
    survey.outcome members cluster = ⟨cluster, [], some fault⟩ := by
  unfold outcome
  rw [present]
  dsimp only
  rw [refused]

theorem outcome_of_listed {survey : Survey} {members : Table Member} {cluster : String} {member : Member}
    {nodes : List Node} (present : members.get? cluster = some member)
    (listed : survey.nodes member = .ok nodes) :
    survey.outcome members cluster = ⟨cluster, survey.placements member nodes, none⟩ := by
  unfold outcome
  rw [present]
  dsimp only
  rw [listed]

theorem placements_of_potential {survey : Survey} (member : Member) (nodes : List Node)
    (potential : survey.potential = true) : survey.placements member nodes = nodes.map (.of · [] true) := by
  rw [placements, potential]
  rfl

theorem placements_of_actual {survey : Survey} (member : Member) (nodes : List Node)
    (actual : survey.potential = false) :
    survey.placements member nodes = nodes.filterMap (survey.placement? member) := by
  rw [placements, actual]
  rfl

theorem outcome_congr (survey : Survey) {members changed : Table Member} {cluster : String}
    (same : changed.get? cluster = members.get? cluster) :
    survey.outcome changed cluster = survey.outcome members cluster := by
  unfold outcome
  rw [same]

theorem nodes_eq_ok_iff (survey : Survey) (member : Member) (nodes : List Node) :
    survey.nodes member = .ok nodes ↔ member.nodes.Delivers survey.options.timeout nodes :=
  Timed.within_eq_ok_iff ..

theorem pods_eq_ok_iff (survey : Survey) (member : Member) (node : Node) (pods : List Pod) :
    survey.pods member node = .ok pods ↔ (member.pods node.name).Delivers survey.options.timeout pods :=
  Timed.within_eq_ok_iff ..

/-- A node is shown as a potential place, or because its pods are listed in time and the workload owns one. -/
def Shows (survey : Survey) (member : Member) (node : Node) : Prop :=
  survey.potential = true ∨ ∃ pods, (member.pods node.name).Delivers survey.options.timeout pods ∧
    ∃ pod ∈ pods, survey.owns pod = true

def ownedPods (survey : Survey) (member : Member) (node : Node) : List Pod :=
  if survey.potential then []
  else match survey.pods member node with
    | .ok pods => pods.filter survey.owns
    | .error _ => []

theorem shows_iff (survey : Survey) (member : Member) (node : Node) :
    survey.Shows member node ↔ (survey.potential || !(survey.ownedPods member node).isEmpty) = true := by
  unfold Shows ownedPods
  cases survey.potential with
  | true => simp
  | false =>
    simp only [← pods_eq_ok_iff]
    cases survey.pods member node with
    | error fault => simp
    | ok pods => simp

instance (survey : Survey) (member : Member) (node : Node) : Decidable (survey.Shows member node) :=
  decidable_of_iff _ (survey.shows_iff member node).symm

theorem placement?_eq (survey : Survey) (member : Member) (node : Node) (actual : survey.potential = false) :
    survey.placement? member node =
      if survey.Shows member node then some (.of node (survey.ownedPods member node) false) else none := by
  have shown := survey.shows_iff member node
  rw [actual, Bool.false_or] at shown
  simp only [shown]
  unfold placement? ownedPods
  rw [actual]
  cases survey.pods member node with
  | error fault => rfl
  | ok pods =>
    simp only [Bool.false_eq_true, if_false]
    cases (pods.filter survey.owns).isEmpty with
    | true => rfl
    | false => rfl

theorem placements_eq (survey : Survey) (member : Member) (nodes : List Node) :
    survey.placements member nodes =
      (nodes.filter fun node => survey.Shows member node).map fun node =>
        .of node (survey.ownedPods member node) survey.potential := by
  cases potential : survey.potential with
  | true =>
    have all (node : Node) : survey.Shows member node := .inl potential
    have none (node : Node) : survey.ownedPods member node = [] := if_pos potential
    simp [placements_of_potential member nodes potential, all, none]
  | false =>
    rw [placements_of_actual member nodes potential]
    induction nodes with
    | nil => rfl
    | cons node rest ih =>
      rw [List.filterMap_cons, List.filter_cons, survey.placement?_eq member node potential, ih]
      by_cases shown : survey.Shows member node
      · simp [shown]
      · simp [shown]

theorem nodes_of_delivered {survey : Survey} {members : Table Member} {cluster : String} {member : Member}
    {nodes : List Node} (present : members.get? cluster = some member)
    (delivered : member.nodes.Delivers survey.options.timeout nodes) :
    (survey.outcome members cluster).nodes =
      (nodes.filter fun node => survey.Shows member node).map fun node =>
        .of node (survey.ownedPods member node) survey.potential := by
  rw [outcome_of_listed present ((survey.nodes_eq_ok_iff member nodes).2 delivered)]
  exact survey.placements_eq member nodes

theorem failure_isSome_iff (survey : Survey) (members : Table Member) (cluster : String) :
    (survey.outcome members cluster).failure.isSome = true ↔ ¬ ∃ member nodes,
      members.get? cluster = some member ∧ member.nodes.Delivers survey.options.timeout nodes := by
  simp only [← nodes_eq_ok_iff]
  cases present : members.get? cluster with
  | none => simp [outcome_of_unknown present]
  | some member =>
    cases listed : survey.nodes member with
    | error fault => simp [outcome_of_refused present listed, listed]
    | ok nodes => simp [outcome_of_listed present listed, listed]

theorem nodes_of_failed {survey : Survey} {members : Table Member} {cluster : String}
    (failed : (survey.outcome members cluster).failure.isSome = true) :
    (survey.outcome members cluster).nodes = [] := by
  cases present : members.get? cluster with
  | none => rw [outcome_of_unknown present]
  | some member =>
    cases listed : survey.nodes member with
    | error fault => rw [outcome_of_refused present listed]
    | ok nodes =>
      rw [outcome_of_listed present listed] at failed
      cases failed

/-- A cluster that has places delivered a list of nodes, and each place is that of a node there. -/
theorem potential_of_mem_nodes {survey : Survey} {members : Table Member} {cluster : String} {place : NodePlacement}
    (placed : place ∈ (survey.outcome members cluster).nodes) : place.potential = survey.potential := by
  by_cases delivers : ∃ member nodes, members.get? cluster = some member ∧
      member.nodes.Delivers survey.options.timeout nodes
  · obtain ⟨member, nodes, present, delivered⟩ := delivers
    rw [nodes_of_delivered present delivered] at placed
    obtain ⟨node, -, rfl⟩ := List.mem_map.1 placed
    rfl
  · rw [nodes_of_failed ((survey.failure_isSome_iff members cluster).2 delivers)] at placed
    cases placed

theorem potential_of_mem_outcomes (survey : Survey) (members : Table Member) {clusters : List String}
    {outcome : ClusterOutcome} {place : NodePlacement} (told : outcome ∈ survey.outcomes members clusters)
    (placed : place ∈ outcome.nodes) : place.potential = survey.potential := by
  obtain ⟨cluster, -, rfl⟩ := List.mem_map.1 told
  exact potential_of_mem_nodes placed

/-- What the outcome of a cluster says of the cluster's answers. The placements bear the names of the nodes that are
shown, in the order of the listing, and all of them are potential if the survey is. -/
structure Reports (survey : Survey) (members : Table Member) (cluster : String) (outcome : ClusterOutcome) :
    Prop where
  name : outcome.cluster = cluster
  failed : outcome.failure.isSome = true ↔ ¬ ∃ member nodes, members.get? cluster = some member ∧
    member.nodes.Delivers survey.options.timeout nodes
  empty : outcome.failure.isSome = true → outcome.nodes = []
  placed : ∀ {member nodes}, members.get? cluster = some member →
    member.nodes.Delivers survey.options.timeout nodes →
    outcome.nodes = (nodes.filter fun node => survey.Shows member node).map fun node =>
      .of node (survey.ownedPods member node) survey.potential
  named : ∀ {member nodes}, members.get? cluster = some member →
    member.nodes.Delivers survey.options.timeout nodes →
    outcome.nodes.map (·.node) = (nodes.filter fun node => survey.Shows member node).map (·.name)
  marked : ∀ place ∈ outcome.nodes, place.potential = survey.potential

theorem outcome_reports (survey : Survey) (members : Table Member) (cluster : String) :
    survey.Reports members cluster (survey.outcome members cluster) := by
  constructor
  case name =>
    unfold outcome
    split
    · rfl
    · split <;> rfl
  case failed => exact survey.failure_isSome_iff members cluster
  case empty => exact nodes_of_failed
  case placed => exact nodes_of_delivered
  case named =>
    intro member nodes present delivered
    rw [nodes_of_delivered present delivered, List.map_map]
    rfl
  case marked => exact fun place placed => potential_of_mem_nodes placed

theorem outcomes_report (survey : Survey) (members : Table Member) (clusters : List String) :
    List.Forall₂ (survey.Reports members) clusters (survey.outcomes members clusters) := by
  rw [outcomes, List.forall₂_map_right_iff]
  exact List.forall₂_same.2 fun cluster _ => survey.outcome_reports members cluster

end Survey

end ReplicaAtlas
