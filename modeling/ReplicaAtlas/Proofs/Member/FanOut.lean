import ReplicaAtlas.Member.FanOut
import ReplicaAtlas.Proofs.Member.Outcome
import ReplicaAtlas.Proofs.Member.TaskSet

/-!
Surveys come to the same outcomes in every order in which their tasks finish: those of asking the clusters and
their nodes one after another. Every run of the tasks ends, and none gets stuck.
-/
namespace ReplicaAtlas.Survey

def NodeTask.Agrees (survey : Survey) (member : Member) : NodeTask → Option NodePlacement → Prop
  | .ready node, placement => placement = survey.placement? member node
  | .asked node, placement => placement = survey.placement? member node
  | .answered found, placement => found = placement

def NodeTask.distance : NodeTask → Nat
  | .ready _ => 2
  | .asked _ => 1
  | .answered _ => 0

theorem NodeTask.result?_eq_some {state : NodeTask} {found : Option NodePlacement}
    (ended : state.result? = some found) : state = .answered found := by
  cases state with
  | answered answer =>
    cases ended
    rfl
  | ready node => cases ended
  | asked node => cases ended

theorem nodeActivity_determines (survey : Survey) (cluster : String) (member : Member) :
    (survey.nodeActivity cluster member).Determines (NodeTask.Agrees survey member) NodeTask.distance where
  step := by
    rintro before calls after placement step agree
    cases step with
    | ask => exact agree
    | answer => exact agree.symm
  result := by
    rintro state found placement ended agree
    cases NodeTask.result?_eq_some ended
    exact agree
  progress := by
    rintro state placement agree
    cases state with
    | answered answer => exact .inl ⟨answer, rfl⟩
    | ready node => exact .inr ⟨_, _, .ask⟩
    | asked node => exact .inr ⟨_, _, .answer⟩
  descends := by
    rintro before calls after step
    cases step with
    | ask => exact Nat.lt_succ_self 1
    | answer => exact Nat.lt_succ_self 0

def NodesAgree (survey : Survey) (member : Member) (set : NodeTasks)
    (slots : List (Option (Option NodePlacement))) : Prop :=
  ∃ results, slots = results.map some ∧ TaskSet.Agrees (NodeTask.Agrees survey member) set results

theorem nodesActivity_determines (survey : Survey) (cluster : String) (member : Member) :
    (survey.nodesActivity cluster member).Determines (NodesAgree survey member)
      (TaskSet.distance NodeTask.distance) :=
  TaskSet.determines_activity (survey.nodeActivity_determines cluster member) (by omega)

theorem nodesAgree_start (survey : Survey) (member : Member) (nodes : List Node) :
    NodesAgree survey member (nodeTasks nodes) ((nodes.map (survey.placement? member)).map some) := by
  refine ⟨_, rfl, .start (by simp) ?_⟩
  intro position task placement atTask atPlacement
  simp only [List.getElem?_map, Option.map_eq_some_iff] at atTask atPlacement
  obtain ⟨node, atNode, rfl⟩ := atTask
  obtain ⟨other, atOther, rfl⟩ := atPlacement
  have same : node = other := Option.some.inj (atNode.symm.trans atOther)
  subst same
  rfl

theorem filterMap_join_map_some {A : Type} (placements : List (Option A)) :
    (placements.map some).filterMap Option.join = placements.filterMap id := by
  rw [List.filterMap_map]
  rfl

def ClusterTask.Agrees (survey : Survey) (members : Table Member) : ClusterTask → ClusterOutcome → Prop
  | .ready cluster, outcome => outcome = survey.outcome members cluster
  | .asked cluster member, outcome => members.get? cluster = some member ∧ outcome = survey.outcome members cluster
  | .spread cluster member set, outcome =>
    ∃ slots, NodesAgree survey member set slots ∧ outcome = ⟨cluster, slots.filterMap Option.join, none⟩
  | .answered found, outcome => found = outcome

def listingDistance (survey : Survey) (member : Member) : Nat :=
  match survey.nodes member with
  | .error _ => 1
  | .ok nodes => TaskSet.distance NodeTask.distance (nodeTasks nodes) + 2

def ClusterTask.distance (survey : Survey) (members : Table Member) : ClusterTask → Nat
  | .ready cluster =>
    match members.get? cluster with
    | none => 1
    | some member => listingDistance survey member + 1
  | .asked _ member => listingDistance survey member
  | .spread _ _ set => TaskSet.distance NodeTask.distance set + 1
  | .answered _ => 0

theorem ClusterTask.result?_eq_some {state : ClusterTask} {found : ClusterOutcome}
    (ended : state.result? = some found) : state = .answered found := by
  cases state with
  | answered answer =>
    cases ended
    rfl
  | ready cluster => cases ended
  | asked cluster member => cases ended
  | spread cluster member set => cases ended

theorem clusterActivity_determines (survey : Survey) (members : Table Member) :
    (survey.clusterActivity members).Determines (ClusterTask.Agrees survey members)
      (ClusterTask.distance survey members) where
  step := by
    rintro before calls after outcome step agree
    cases step with
    | unknown absent => exact (outcome_of_unknown absent).symm.trans agree.symm
    | ask present => exact ⟨present, agree⟩
    | refuse refused => exact (outcome_of_refused agree.1 refused).symm.trans agree.2.symm
    | @suppose cluster member nodes listed potential =>
      have same := (outcome_of_listed agree.1 listed).symm.trans agree.2.symm
      rw [placements_of_potential member nodes potential] at same
      exact same
    | @fanOut cluster member nodes listed actual =>
      refine ⟨_, survey.nodesAgree_start member nodes, ?_⟩
      rw [filterMap_join_map_some, List.filterMap_map, agree.2, outcome_of_listed agree.1 listed,
        placements_of_actual member nodes actual]
      rfl
    | @inner cluster member nodes calls next step =>
      obtain ⟨slots, nodesAgree, same⟩ := agree
      exact ⟨slots, (survey.nodesActivity_determines cluster member).step step nodesAgree, same⟩
    | @gather cluster member nodes found ended =>
      obtain ⟨slots, nodesAgree, same⟩ := agree
      have filled := (survey.nodesActivity_determines cluster member).result ended nodesAgree
      subst filled
      exact same.symm
  result := by
    rintro state found outcome ended agree
    cases ClusterTask.result?_eq_some ended
    exact agree
  progress := by
    rintro state outcome agree
    cases state with
    | answered answer => exact .inl ⟨answer, rfl⟩
    | ready cluster =>
      cases found : members.get? cluster with
      | none => exact .inr ⟨_, _, .unknown found⟩
      | some member => exact .inr ⟨_, _, .ask found⟩
    | asked cluster member =>
      cases listed : survey.nodes member with
      | error fault => exact .inr ⟨_, _, .refuse listed⟩
      | ok nodes =>
        cases potential : survey.potential with
        | true => exact .inr ⟨_, _, .suppose listed potential⟩
        | false => exact .inr ⟨_, _, .fanOut listed potential⟩
    | spread cluster member set =>
      obtain ⟨slots, nodesAgree, _⟩ := agree
      rcases (survey.nodesActivity_determines cluster member).progress nodesAgree with
        ⟨found, ended⟩ | ⟨calls, next, step⟩
      · exact .inr ⟨_, _, .gather ended⟩
      · exact .inr ⟨_, _, .inner step⟩
  descends := by
    rintro before calls after step
    cases step with
    | unknown absent => simp [ClusterTask.distance, absent]
    | ask present => simp [ClusterTask.distance, present]
    | refuse refused => simp [ClusterTask.distance, listingDistance, refused]
    | suppose listed potential => simp [ClusterTask.distance, listingDistance, listed]
    | fanOut listed actual => simp [ClusterTask.distance, listingDistance, listed]
    | @inner cluster member nodes calls next step =>
      have less := (survey.nodesActivity_determines cluster member).descends step
      simpa [ClusterTask.distance] using less
    | gather ended => simp [ClusterTask.distance]

def ClustersAgree (survey : Survey) (members : Table Member) (set : ClusterTasks)
    (slots : List (Option ClusterOutcome)) : Prop :=
  ∃ results, slots = results.map some ∧ TaskSet.Agrees (ClusterTask.Agrees survey members) set results

theorem clustersActivity_determines (survey : Survey) (members : Table Member) :
    (survey.clustersActivity members).Determines (ClustersAgree survey members)
      (TaskSet.distance (ClusterTask.distance survey members)) :=
  TaskSet.determines_activity (survey.clusterActivity_determines members) (by omega)

theorem clustersAgree_start (survey : Survey) (members : Table Member) (clusters : List String) :
    ClustersAgree survey members (clusterTasks clusters) ((survey.outcomes members clusters).map some) := by
  refine ⟨_, rfl, .start (by simp [outcomes]) ?_⟩
  intro position task outcome atTask atOutcome
  simp only [outcomes, List.getElem?_map, Option.map_eq_some_iff] at atTask atOutcome
  obtain ⟨cluster, atCluster, rfl⟩ := atTask
  obtain ⟨other, atOther, rfl⟩ := atOutcome
  have same : cluster = other := Option.some.inj (atCluster.symm.trans atOther)
  subst same
  rfl

/-- No slot stays empty, so no cluster is reported as lost. -/
theorem gathered_map_some {clusters : List String} {outcomes : List ClusterOutcome}
    (same : outcomes.length = clusters.length) : gathered clusters (outcomes.map some) = outcomes := by
  unfold gathered
  rw [List.zip_map_left, List.map_map]
  exact List.map_fst_zip (by omega)

theorem concludes_iff (survey : Survey) (members : Table Member) (clusters : List String)
    (outcomes : List ClusterOutcome) :
    (∃ calls, survey.Concludes members clusters calls outcomes) ↔
      outcomes = survey.outcomes members clusters := by
  have determines := survey.clustersActivity_determines members
  have start := survey.clustersAgree_start members clusters
  have complete : gathered clusters ((survey.outcomes members clusters).map some) =
      survey.outcomes members clusters := gathered_map_some (by simp [Survey.outcomes])
  constructor
  · rintro ⟨calls, final, slots, run, ended, rfl⟩
    have filled := determines.result ended (determines.runs run start)
    rw [filled, complete]
  · rintro rfl
    obtain ⟨calls, final, run, ended⟩ := determines.concludes start
    exact ⟨calls, final, _, run, ended, complete.symm⟩

theorem runs_progress (survey : Survey) (members : Table Member) {clusters : List String} {calls : List Call}
    {state : ClusterTasks} (run : (survey.clustersActivity members).Runs (clusterTasks clusters) calls state) :
    (∃ slots, (survey.clustersActivity members).result? state = some slots) ∨
      ∃ calls next, (survey.clustersActivity members).Step state calls next := by
  have determines := survey.clustersActivity_determines members
  exact determines.progress (determines.runs run (survey.clustersAgree_start members clusters))

/-- A survey comes to the outcomes of asking the clusters and their nodes one after another, in every order in
which its tasks finish: no run gets stuck, none goes on for ever, and each that ends has these outcomes. They
stand in the order of the clusters, and what one cluster answers leaves the outcomes of the others alone. -/
theorem concludes_sequentially (survey : Survey) (members : Table Member) (clusters : List String) :
    (∀ outcomes, (∃ calls, survey.Concludes members clusters calls outcomes) ↔
      outcomes = survey.outcomes members clusters) ∧
    (∀ calls state, (survey.clustersActivity members).Runs (clusterTasks clusters) calls state →
      (∃ slots, (survey.clustersActivity members).result? state = some slots) ∨
        ∃ more next, (survey.clustersActivity members).Step state more next) ∧
    (WellFounded fun after before => ∃ calls, (survey.clustersActivity members).Step before calls after) ∧
    List.Forall₂ (survey.Reports members) clusters (survey.outcomes members clusters) ∧
    ∀ (changed : Table Member) (name : String),
      (∀ other, other ≠ name → changed.get? other = members.get? other) →
      ∀ calls outcomes, survey.Concludes changed clusters calls outcomes →
      ∀ (position : Nat) (cluster : String), clusters[position]? = some cluster → cluster ≠ name →
        outcomes[position]? = (survey.outcomes members clusters)[position]? := by
  refine ⟨survey.concludes_iff members clusters, fun calls state run => survey.runs_progress members run,
    (survey.clustersActivity_determines members).wellFounded, survey.outcomes_report members clusters, ?_⟩
  intro changed name same calls outcomes concludes position cluster atCluster other
  have sequential := (survey.concludes_iff changed clusters outcomes).1 ⟨calls, concludes⟩
  rw [sequential, Survey.outcomes, Survey.outcomes, List.getElem?_map, List.getElem?_map, atCluster]
  exact congrArg some (survey.outcome_congr (same cluster other))

/-- Four nodes: with two pods of nginx, with pods of others, with a pod that is listed too late, and with a pod of a
replica set of nginx. -/
def fourNodes : Member :=
  let node (name : String) : Node := { Node.empty with header := { Metadata.empty with name := name } }
  let pod (name kind owner : String) : Pod :=
    { Pod.empty with header := { Metadata.empty with name := name, owners := [⟨"apps/v1", kind, owner⟩] } }
  { nodes := .now (.ok [node "n1", node "n2", node "n3", node "n4"])
    pods := fun name =>
      if name = "n1" then .now (.ok [pod "a" "Deployment" "nginx", pod "b" "Job" "cron", pod "c" "Deployment" "nginx"])
      else if name = "n2" then .now (.ok [pod "d" "StatefulSet" "nginx"])
      else if name = "n3" then ⟨.ofSeconds 6, .ok [pod "e" "Deployment" "nginx"]⟩
      else .now (.ok [pod "f" "ReplicaSet" "nginx-5d59d67564"]) }

theorem concludes_sequentially_beside_failure :
    let survey : Survey := ⟨.default, ⟨"default", "nginx", "Deployment", "apps/v1"⟩, false⟩
    let failing : Member := ⟨.now (.error (.status "/api/v1/nodes" 500)), fun _ => .now (.ok [])⟩
    let members := (Table.empty.insert "a" fourNodes).insert "b" fourNodes
    let changed := members.insert "a" failing
    let clusters := ["a", "b", "ghost", "b"]
    (∀ other, other ≠ "a" → changed.get? other = members.get? other) ∧
      (survey.clustersActivity members).Runs (clusterTasks clusters) [] (clusterTasks clusters) ∧
      (∃ calls, survey.Concludes changed clusters calls (survey.outcomes changed clusters)) ∧
      (survey.outcomes changed clusters)[1]? = (survey.outcomes members clusters)[1]? ∧
      (survey.outcomes changed clusters).map (fun outcome => (outcome.cluster, outcome.failure.isSome)) =
        [("a", true), ("b", false), ("ghost", true), ("b", false)] ∧
      (survey.outcomes changed clusters).map (·.nodes.map fun place => (place.node, place.pods.map (·.name))) =
        [[], [("n1", ["a", "c"]), ("n4", ["f"])], [], [("n1", ["a", "c"]), ("n4", ["f"])]] := by
  intro survey failing members changed clusters
  have same (other : String) (apart : other ≠ "a") : changed.get? other = members.get? other := by
    simp [changed, apart]
  obtain ⟨_, _, _, _, isolated⟩ := survey.concludes_sequentially members clusters
  obtain ⟨calls, concludes⟩ := ((survey.concludes_sequentially changed clusters).1 _).2 rfl
  have left := isolated changed "a" same calls _ concludes 1 "b" rfl (by decide)
  exact ⟨same, .refl _, ⟨calls, concludes⟩, left, by decide +kernel, by decide +kernel⟩

end ReplicaAtlas.Survey
