import ReplicaAtlas.Proofs.Groups
import ReplicaAtlas.Proofs.Member.FanOut
import ReplicaAtlas.Proofs.Member.Trace

/-!
The calls that a survey makes, in every order in which its tasks finish: each cluster of the list that is known is
asked for its nodes once for each of its places, and for the pods on each node that it lists if pods are asked for
at all. Nothing is asked twice for another reason.
-/
namespace ReplicaAtlas.Survey

def podCalls (survey : Survey) (cluster : String) (member : Member) : List Call :=
  match survey.nodes member with
  | .error _ => []
  | .ok nodes => if survey.potential then [] else nodes.map fun node => .pods cluster node.name

section PodCalls
variable {survey : Survey} {member : Member} (cluster : String)

theorem podCalls_of_refused {fault : MemberFault} (refused : survey.nodes member = .error fault) :
    survey.podCalls cluster member = [] := by
  unfold podCalls
  rw [refused]

theorem podCalls_of_potential (potential : survey.potential = true) : survey.podCalls cluster member = [] := by
  unfold podCalls
  rw [potential]
  cases survey.nodes member with
  | error fault => rfl
  | ok nodes => rfl

theorem podCalls_of_listed {nodes : List Node} (listed : survey.nodes member = .ok nodes)
    (actual : survey.potential = false) :
    survey.podCalls cluster member = nodes.map fun node => .pods cluster node.name := by
  unfold podCalls
  rw [listed, actual]
  rfl

end PodCalls

theorem callsTo_of_unknown {survey : Survey} {members : Table Member} {cluster : String}
    (absent : members.get? cluster = none) : survey.callsTo members cluster = [] := by
  unfold callsTo
  rw [absent]

theorem callsTo_of_known {survey : Survey} {members : Table Member} {cluster : String} {member : Member}
    (present : members.get? cluster = some member) :
    survey.callsTo members cluster = .nodes cluster :: survey.podCalls cluster member := by
  unfold callsTo podCalls
  rw [present]
  dsimp only
  cases survey.nodes member with
  | error fault => rfl
  | ok nodes => rfl

def NodeTask.owes (cluster : String) : NodeTask → List Call
  | .ready node => [.pods cluster node.name]
  | .asked _ => []
  | .answered _ => []

theorem nodeActivity_pays (survey : Survey) (cluster : String) (member : Member) :
    (survey.nodeActivity cluster member).Pays (NodeTask.owes cluster) where
  step := by
    intro before calls after step
    cases step with
    | ask => exact .refl _
    | answer => exact .refl _
  result := by
    intro state found ended
    rw [NodeTask.result?_eq_some ended]
    rfl

theorem nodesActivity_pays (survey : Survey) (cluster : String) (member : Member) :
    (survey.nodesActivity cluster member).Pays (TaskSet.setOwes (NodeTask.owes cluster)) :=
  TaskSet.pays_activity (survey.nodeActivity_pays cluster member) _

theorem setOwes_nodeTasks (cluster : String) (nodes : List Node) :
    TaskSet.setOwes (NodeTask.owes cluster) (nodeTasks nodes) =
      nodes.map fun node => .pods cluster node.name := by
  rw [nodeTasks, TaskSet.setOwes_start, List.flatMap_map]
  exact List.flatMap_pure_eq_map ..

def ClusterTask.owes (survey : Survey) (members : Table Member) : ClusterTask → List Call
  | .ready cluster => survey.callsTo members cluster
  | .asked cluster member => survey.podCalls cluster member
  | .spread cluster _ set => TaskSet.setOwes (NodeTask.owes cluster) set
  | .answered _ => []

theorem clusterActivity_pays (survey : Survey) (members : Table Member) :
    (survey.clusterActivity members).Pays (ClusterTask.owes survey members) where
  step := by
    intro before calls after step
    cases step with
    | unknown absent =>
      rw [ClusterTask.owes, ClusterTask.owes, callsTo_of_unknown absent]
      exact .refl _
    | ask present =>
      rw [ClusterTask.owes, ClusterTask.owes, callsTo_of_known present]
      exact .refl _
    | @refuse cluster member fault refused =>
      rw [ClusterTask.owes, ClusterTask.owes, podCalls_of_refused cluster refused]
      exact .refl _
    | @suppose cluster member nodes listed potential =>
      rw [ClusterTask.owes, ClusterTask.owes, podCalls_of_potential cluster potential]
      exact .refl _
    | @fanOut cluster member nodes listed actual =>
      rw [ClusterTask.owes, ClusterTask.owes, podCalls_of_listed cluster listed actual, setOwes_nodeTasks]
      exact .refl _
    | @inner cluster member nodes calls next step =>
      exact (survey.nodesActivity_pays cluster member).step step
    | @gather cluster member nodes slots ended =>
      rw [ClusterTask.owes, ClusterTask.owes, (survey.nodesActivity_pays cluster member).result ended]
      exact .refl _
  result := by
    intro state found ended
    rw [ClusterTask.result?_eq_some ended]
    rfl

theorem clustersActivity_pays (survey : Survey) (members : Table Member) :
    (survey.clustersActivity members).Pays (TaskSet.setOwes (ClusterTask.owes survey members)) :=
  TaskSet.pays_activity (survey.clusterActivity_pays members) _

theorem setOwes_clusterTasks (survey : Survey) (members : Table Member) (clusters : List String) :
    TaskSet.setOwes (ClusterTask.owes survey members) (clusterTasks clusters) = survey.calls members clusters := by
  rw [clusterTasks, TaskSet.setOwes_start, List.flatMap_map]
  rfl

theorem calls_perm_of_concludes {survey : Survey} {members : Table Member} {clusters : List String}
    {calls : List Call} {outcomes : List ClusterOutcome}
    (concludes : survey.Concludes members clusters calls outcomes) :
    calls.Perm (survey.calls members clusters) := by
  obtain ⟨final, slots, run, ended, -⟩ := concludes
  have paid := (survey.clustersActivity_pays members).concludes run ended
  rw [setOwes_clusterTasks] at paid
  exact paid

theorem calls_subperm_of_runs {survey : Survey} {members : Table Member} {clusters : List String}
    {calls : List Call} {state : ClusterTasks}
    (run : (survey.clustersActivity members).Runs (clusterTasks clusters) calls state) :
    calls.Subperm (survey.calls members clusters) := by
  have paid := (survey.clustersActivity_pays members).runs run
  rw [setOwes_clusterTasks] at paid
  exact (List.sublist_append_left calls _).subperm.trans paid.subperm

section Counting
variable {survey : Survey} {members : Table Member}

theorem nodes_not_mem_podCalls (survey : Survey) (asked cluster : String) (member : Member) :
    Call.nodes asked ∉ survey.podCalls cluster member := by
  unfold podCalls
  cases survey.nodes member with
  | error fault => simp
  | ok nodes =>
    dsimp only
    split
    case isTrue => simp
    case isFalse => simp

theorem pods_mem_podCalls {asked cluster name : String} {member : Member}
    (made : Call.pods asked name ∈ survey.podCalls cluster member) : asked = cluster := by
  unfold podCalls at made
  cases listed : survey.nodes member with
  | error fault => simp [listed] at made
  | ok nodes =>
    rw [listed] at made
    dsimp only at made
    split at made
    case isTrue => simp at made
    case isFalse =>
      obtain ⟨node, -, same⟩ := List.mem_map.1 made
      exact (Call.pods.inj same).1.symm

theorem mem_callsTo {cluster : String} {call : Call} (made : call ∈ survey.callsTo members cluster) :
    ∃ member, members.get? cluster = some member ∧
      (call = .nodes cluster ∨ call ∈ survey.podCalls cluster member) := by
  cases present : members.get? cluster with
  | none =>
    rw [callsTo_of_unknown present] at made
    exact absurd made List.not_mem_nil
  | some member =>
    rw [callsTo_of_known present] at made
    exact ⟨member, rfl, List.mem_cons.1 made⟩

theorem nodes_not_mem_callsTo {asked cluster : String} (apart : cluster ≠ asked) :
    Call.nodes asked ∉ survey.callsTo members cluster := by
  intro made
  obtain ⟨member, -, same | later⟩ := mem_callsTo made
  · exact apart (Call.nodes.inj same).symm
  · exact nodes_not_mem_podCalls survey asked cluster member later

theorem pods_not_mem_callsTo {asked cluster : String} (name : String) (apart : cluster ≠ asked) :
    Call.pods asked name ∉ survey.callsTo members cluster := by
  intro made
  obtain ⟨member, -, same | later⟩ := mem_callsTo made
  · cases same
  · exact apart (pods_mem_podCalls later).symm

theorem count_nodes_callsTo (cluster : String) :
    (survey.callsTo members cluster).count (.nodes cluster) = if (members.get? cluster).isSome then 1 else 0 := by
  cases present : members.get? cluster with
  | none =>
    rw [callsTo_of_unknown present]
    rfl
  | some member =>
    have later := List.count_eq_zero.2 (nodes_not_mem_podCalls survey cluster cluster member)
    rw [callsTo_of_known present, List.count_cons_self, later]
    rfl

theorem count_pods_callsTo {cluster : String} {member : Member} (name : String)
    (present : members.get? cluster = some member) :
    (survey.callsTo members cluster).count (.pods cluster name) =
      (survey.podCalls cluster member).count (.pods cluster name) := by
  have apart : Call.nodes cluster ≠ .pods cluster name := by simp
  rw [callsTo_of_known present, List.count_cons_of_ne apart]

theorem count_pods_of_listed {cluster : String} {member : Member} {nodes : List Node} (name : String)
    (listed : survey.nodes member = .ok nodes) (actual : survey.potential = false) :
    (survey.podCalls cluster member).count (.pods cluster name) = nodes.countP (·.name = name) := by
  rw [podCalls_of_listed cluster listed actual, List.count, List.countP_map]
  apply List.countP_congr
  intro node _
  simp

end Counting

/-- How often each call is made: nodes are listed once for each place of a known cluster, and pods once for each
node of a listing that arrived, if pods are asked for. -/
structure NeededCalls (survey : Survey) (members : Table Member) (clusters : List String) (calls : List Call) :
    Prop where
  nodes : ∀ cluster, calls.count (.nodes cluster) =
    if (members.get? cluster).isSome then clusters.count cluster else 0
  pods : survey.potential = false → ∀ cluster member nodes, members.get? cluster = some member →
    member.nodes.Delivers survey.options.timeout nodes →
    ∀ name, calls.count (.pods cluster name) = clusters.count cluster * nodes.countP (·.name = name)
  potential : survey.potential = true → ∀ cluster name, .pods cluster name ∉ calls
  unknown : ∀ cluster, members.get? cluster = none →
    .nodes cluster ∉ calls ∧ ∀ name, .pods cluster name ∉ calls
  refused : ∀ cluster member, members.get? cluster = some member →
    (∀ nodes, ¬ member.nodes.Delivers survey.options.timeout nodes) → ∀ name, .pods cluster name ∉ calls

section Needed
variable (survey : Survey) (members : Table Member) (clusters : List String)

theorem count_nodes_calls (cluster : String) :
    (survey.calls members clusters).count (.nodes cluster) =
      if (members.get? cluster).isSome then clusters.count cluster else 0 := by
  rw [calls, count_flatMap_of_key (survey.callsTo members) (fun other => nodes_not_mem_callsTo), count_nodes_callsTo]
  split
  case isTrue => rw [Nat.mul_one]
  case isFalse => rw [Nat.mul_zero]

theorem count_pods_calls (cluster name : String) :
    (survey.calls members clusters).count (.pods cluster name) =
      clusters.count cluster * (survey.callsTo members cluster).count (.pods cluster name) := by
  rw [calls, count_flatMap_of_key (survey.callsTo members) (fun other => pods_not_mem_callsTo name)]

theorem pods_not_mem_calls {cluster : String}
    (none : ∀ member, members.get? cluster = some member → survey.podCalls cluster member = []) (name : String) :
    .pods cluster name ∉ survey.calls members clusters := by
  rw [← List.count_eq_zero, count_pods_calls]
  cases present : members.get? cluster with
  | none => rw [callsTo_of_unknown present, List.count_nil, Nat.mul_zero]
  | some member => rw [count_pods_callsTo name present, none member present, List.count_nil, Nat.mul_zero]

theorem neededCalls_calls : survey.NeededCalls members clusters (survey.calls members clusters) where
  nodes := survey.count_nodes_calls members clusters
  pods actual cluster member nodes present delivers name := by
    have listed := (survey.nodes_eq_ok_iff member nodes).2 delivers
    rw [count_pods_calls, count_pods_callsTo name present, count_pods_of_listed name listed actual]
  potential potential cluster :=
    survey.pods_not_mem_calls members clusters fun _ _ => podCalls_of_potential cluster potential
  unknown cluster absent := by
    refine ⟨?_, survey.pods_not_mem_calls members clusters fun member present => ?_⟩
    · rw [← List.count_eq_zero, count_nodes_calls, absent]
      rfl
    · rw [absent] at present
      cases present
  refused cluster member present silent := by
    refine survey.pods_not_mem_calls members clusters fun other found => ?_
    cases present.symm.trans found
    cases listed : survey.nodes member with
    | error fault => exact podCalls_of_refused cluster listed
    | ok nodes => exact absurd ((survey.nodes_eq_ok_iff member nodes).1 listed) (silent nodes)

end Needed

theorem NeededCalls.of_perm {survey : Survey} {members : Table Member} {clusters : List String}
    {calls made : List Call} (needed : survey.NeededCalls members clusters calls) (same : made.Perm calls) :
    survey.NeededCalls members clusters made where
  nodes cluster := (same.count_eq _).trans (needed.nodes cluster)
  pods actual cluster member nodes present delivers name :=
    (same.count_eq _).trans (needed.pods actual cluster member nodes present delivers name)
  potential potential cluster name :=
    fun member => needed.potential potential cluster name (same.mem_iff.1 member)
  unknown cluster absent := by
    obtain ⟨nodes, pods⟩ := needed.unknown cluster absent
    exact ⟨fun member => nodes (same.mem_iff.1 member), fun name member => pods name (same.mem_iff.1 member)⟩
  refused cluster member present silent name :=
    fun made => needed.refused cluster member present silent name (same.mem_iff.1 made)

end ReplicaAtlas.Survey
