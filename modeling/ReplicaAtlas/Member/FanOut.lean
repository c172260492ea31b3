import ReplicaAtlas.Member.Survey
import ReplicaAtlas.Member.TaskSet

/-!
Surveys as they are carried out: one task for each cluster of the list, and in it one for each of its nodes, a
bounded number of either at a time. Outcomes and placements are put in order by the slots they are collected
into. A cluster whose slot stays empty is reported as failed, a node whose slot stays empty is left out.
-/
namespace ReplicaAtlas.Survey

inductive NodeTask where
  | ready (node : Node)
  | asked (node : Node)
  | answered (placement : Option NodePlacement)

abbrev NodeTasks : Type := TaskSet NodeTask (Option NodePlacement)

def nodeTasks (nodes : List Node) : NodeTasks := .start (nodes.map .ready)

inductive NodeTask.Step (survey : Survey) (cluster : String) (member : Member) :
    NodeTask → List Call → NodeTask → Prop
  | ask {node} : Step survey cluster member (.ready node) [.pods cluster node.name] (.asked node)
  | answer {node} : Step survey cluster member (.asked node) [] (.answered (survey.placement? member node))

def NodeTask.result? : NodeTask → Option (Option NodePlacement)
  | .answered placement => some placement
  | _ => none

def nodeActivity (survey : Survey) (cluster : String) (member : Member) :
    Activity NodeTask Call (Option NodePlacement) where
  Step := NodeTask.Step survey cluster member
  result? := NodeTask.result?

def nodesActivity (survey : Survey) (cluster : String) (member : Member) :
    Activity NodeTasks Call (List (Option (Option NodePlacement))) :=
  TaskSet.activity (survey.nodeActivity cluster member) (max survey.options.nodeConcurrency 1)

inductive ClusterTask where
  | ready (cluster : String)
  | asked (cluster : String) (member : Member)
  | spread (cluster : String) (member : Member) (nodes : NodeTasks)
  | answered (outcome : ClusterOutcome)

abbrev ClusterTasks : Type := TaskSet ClusterTask ClusterOutcome

def clusterTasks (clusters : List String) : ClusterTasks := .start (clusters.map .ready)

inductive ClusterTask.Step (survey : Survey) (members : Table Member) :
    ClusterTask → List Call → ClusterTask → Prop
  | unknown {cluster} (absent : members.get? cluster = none) :
      Step survey members (.ready cluster) [] (.answered ⟨cluster, [], some (.noClient cluster)⟩)
  | ask {cluster member} (present : members.get? cluster = some member) :
      Step survey members (.ready cluster) [.nodes cluster] (.asked cluster member)
  | refuse {cluster member fault} (refused : survey.nodes member = .error fault) :
      Step survey members (.asked cluster member) [] (.answered ⟨cluster, [], some fault⟩)
  | suppose {cluster member nodes} (listed : survey.nodes member = .ok nodes)
      (potential : survey.potential = true) :
      Step survey members (.asked cluster member) [] (.answered ⟨cluster, nodes.map (.of · [] true), none⟩)
  | fanOut {cluster member nodes} (listed : survey.nodes member = .ok nodes)
      (actual : survey.potential = false) :
      Step survey members (.asked cluster member) [] (.spread cluster member (nodeTasks nodes))
  | inner {cluster member nodes calls next} (step : (survey.nodesActivity cluster member).Step nodes calls next) :
      Step survey members (.spread cluster member nodes) calls (.spread cluster member next)
  | gather {cluster member nodes slots} (ended : (survey.nodesActivity cluster member).result? nodes = some slots) :
      Step survey members (.spread cluster member nodes) []
        (.answered ⟨cluster, slots.filterMap Option.join, none⟩)

def ClusterTask.result? : ClusterTask → Option ClusterOutcome
  | .answered outcome => some outcome
  | _ => none

def clusterActivity (survey : Survey) (members : Table Member) : Activity ClusterTask Call ClusterOutcome where
  Step := ClusterTask.Step survey members
  result? := ClusterTask.result?

def clustersActivity (survey : Survey) (members : Table Member) :
    Activity ClusterTasks Call (List (Option ClusterOutcome)) :=
  TaskSet.activity (survey.clusterActivity members) (max survey.options.clusterConcurrency 1)

/-- The outcomes out of their slots; an empty slot is the failure of its cluster. -/
def gathered (clusters : List String) (slots : List (Option ClusterOutcome)) : List ClusterOutcome :=
  (slots.zip clusters).map fun e => e.1.getD ⟨e.2, [], some .taskLost⟩

/-- What a survey of clusters may come to, with the calls it made, when its tasks finish in some order. -/
def Concludes (survey : Survey) (members : Table Member) (clusters : List String) (calls : List Call)
    (outcomes : List ClusterOutcome) : Prop :=
  ∃ final slots, (survey.clustersActivity members).Runs (clusterTasks clusters) calls final ∧
    (survey.clustersActivity members).result? final = some slots ∧ outcomes = gathered clusters slots

end ReplicaAtlas.Survey
