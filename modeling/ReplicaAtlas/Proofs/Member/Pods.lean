import Mathlib.Data.List.Perm.Basic
import ReplicaAtlas.Number.Word
import ReplicaAtlas.Proofs.Groups
import ReplicaAtlas.Proofs.Member.FanOut

/-!
No pod is lost or counted twice. A member that lists nodes of different names, and for a node the pods assigned to
it, tells every pod once, so the placements of a survey show every pod of the workload once, under its node, as long
as the node is listed and its pods are. What a placement counts is what it shows.
-/
namespace ReplicaAtlas

def Timed.arrives {A : Type} (reply : Timed A) (timeout : Duration) : Bool :=
  decide (reply.delay.milliseconds ≤ timeout.milliseconds) && reply.answer.isOk

theorem Timed.arrives_iff {A : Type} (reply : Timed A) (timeout : Duration) :
    reply.arrives timeout = true ↔ ∃ items, reply.Delivers timeout items := by
  unfold Timed.arrives Timed.Delivers
  rw [Bool.and_eq_true, decide_eq_true_iff]
  cases reply.answer with
  | ok items => simp [Except.isOk, Except.toBool]
  | error fault => simp [Except.isOk, Except.toBool]

/-- The contract of a member: it lists nodes of different names, and the pods it tells for a node are, in some order,
those of the cluster's pods that are assigned to the node. -/
structure Member.Serves (member : Member) (nodes : List Node) (pods : List Pod) : Prop where
  distinct : (nodes.map (·.name)).Nodup
  assigned : ∀ name told, (member.pods name).answer = .ok told → told.Perm (pods.filter (·.nodeName = name))

namespace NodePlacement

def isCounted (phase : String) : Bool := phase == "Running" || phase == "Pending" || phase == "Failed"

structure Counts (place : NodePlacement) : Prop where
  all : place.podCount.toNat = place.pods.length
  some : 1 ≤ place.podCount.toNat
  running : place.running.toNat = place.pods.countP (·.phase = "Running")
  pending : place.pending.toNat = place.pods.countP (·.phase = "Pending")
  failed : place.failed.toNat = place.pods.countP (·.phase = "Failed")
  phases : place.running.toNat + place.pending.toNat + place.failed.toNat ≤ place.podCount.toNat
  counted : place.running.toNat + place.pending.toNat + place.failed.toNat = place.podCount.toNat ↔
    ∀ detail ∈ place.pods, detail.phase = "Running" ∨ detail.phase = "Pending" ∨ detail.phase = "Failed"

theorem phases_add_up (details : List PodDetail) :
    details.countP (·.phase = "Running") + details.countP (·.phase = "Pending") +
      details.countP (·.phase = "Failed") + details.countP (fun detail => !isCounted detail.phase) =
        details.length := by
  induction details with
  | nil => rfl
  | cons detail rest ih =>
    simp only [List.countP_cons, List.length_cons, ← ih]
    by_cases running : detail.phase = "Running"
    · simp [isCounted, running]
      omega
    · by_cases pending : detail.phase = "Pending"
      · simp [isCounted, pending]
        omega
      · by_cases failed : detail.phase = "Failed"
        · simp [isCounted, failed]
          omega
        · simp [isCounted, running, pending, failed]
          omega

theorem countP_not_isCounted (details : List PodDetail) :
    details.countP (fun detail => !isCounted detail.phase) = 0 ↔
      ∀ detail ∈ details, detail.phase = "Running" ∨ detail.phase = "Pending" ∨ detail.phase = "Failed" := by
  simp [List.countP_eq_zero, isCounted, ← or_iff_not_imp_left]

theorem inPhase_toNat (phase : String) {pods : List Pod} (few : pods.length < 4294967296) :
    (inPhase phase pods).toNat = (pods.map PodDetail.of).countP (·.phase = phase) := by
  have part : pods.countP (·.phase == phase) ≤ pods.length := List.countP_le_length
  rw [inPhase, Word.toNat_toUInt32 (by omega), List.countP_map]
  rfl

theorem counts_of (node : Node) {pods : List Pod} (some : pods ≠ []) (few : pods.length < 4294967296)
    (potential : Bool) : (of node pods potential).Counts := by
  have shown : (of node pods potential).pods = pods.map PodDetail.of := rfl
  have all : (of node pods potential).podCount.toNat = (of node pods potential).pods.length := by
    rw [shown, List.length_map]
    exact Word.toNat_toUInt32 few
  have parts := phases_add_up (of node pods potential).pods
  have running : (of node pods potential).running.toNat = _ := inPhase_toNat "Running" few
  have pending : (of node pods potential).pending.toNat = _ := inPhase_toNat "Pending" few
  have failed : (of node pods potential).failed.toNat = _ := inPhase_toNat "Failed" few
  rw [← shown] at running pending failed
  refine ⟨all, ?_, running, pending, failed, by omega, ?_⟩
  · rw [all, shown, List.length_map]
    exact List.length_pos_iff.2 some
  · rw [← countP_not_isCounted]
    omega

end NodePlacement

namespace Survey

variable (survey : Survey) (member : Member)

def finds (pod : Pod) : Bool :=
  (member.pods pod.nodeName).arrives survey.options.timeout && survey.owns pod

def isPlaced (nodes : List Node) (pod : Pod) : Bool := pod.nodeName ∈ nodes.map (·.name)

def detailsByNode (places : List NodePlacement) : List (String × PodDetail) :=
  places.flatMap fun place => place.pods.map fun detail => (place.node, detail)

variable {survey member}

theorem ownedPods_of_actual (actual : survey.potential = false) (node : Node) :
    survey.ownedPods member node =
      match survey.pods member node with
      | .ok pods => pods.filter survey.owns
      | .error _ => [] := by
  rw [ownedPods, actual]
  rfl

theorem ownedPods_eq_nil (actual : survey.potential = false) {node : Node}
    (hidden : ¬ survey.Shows member node) : survey.ownedPods member node = [] := by
  have empty := mt (survey.shows_iff member node).2 hidden
  rw [actual, Bool.false_or] at empty
  simpa using empty

theorem ownedPods_perm (actual : survey.potential = false) {nodes : List Node} {pods : List Pod}
    (serves : member.Serves nodes pods) (node : Node) :
    (survey.ownedPods member node).Perm
      ((pods.filter (survey.finds member)).filter (·.nodeName = node.name)) := by
  rw [ownedPods_of_actual actual, List.filter_filter]
  cases told : survey.pods member node with
  | ok listed =>
    have delivers := (survey.pods_eq_ok_iff member node listed).1 told
    have arrives := (Timed.arrives_iff _ _).2 ⟨listed, delivers⟩
    have assigned := (serves.assigned node.name listed delivers.2).filter survey.owns
    rw [List.filter_filter] at assigned
    refine assigned.trans (List.Perm.of_eq (List.filter_congr fun pod _ => ?_))
    by_cases here : pod.nodeName = node.name
    · simp [finds, here, arrives]
    · simp [here]
  | error fault =>
    have silent : (member.pods node.name).arrives survey.options.timeout = false := by
      rw [Bool.eq_false_iff, Ne, Timed.arrives_iff]
      rintro ⟨listed, delivers⟩
      rw [(survey.pods_eq_ok_iff member node listed).2 delivers] at told
      cases told
    have none : ∀ pod ∈ pods, ¬ (decide (pod.nodeName = node.name) && survey.finds member pod) = true := by
      intro pod _
      by_cases here : pod.nodeName = node.name
      · simp [finds, here, silent]
      · simp [here]
    rw [List.filter_eq_nil_iff.2 none]

/-- A node that is not shown has no pods of the workload, so nothing is lost with it. -/
theorem detailsByNode_placements (actual : survey.potential = false) (nodes : List Node) :
    detailsByNode (survey.placements member nodes) =
      nodes.flatMap fun node => (survey.ownedPods member node).map fun pod => (node.name, PodDetail.of pod) := by
  rw [placements_eq, detailsByNode, List.flatMap_map]
  induction nodes with
  | nil => rfl
  | cons node rest ih =>
    rw [List.filter_cons, List.flatMap_cons]
    by_cases shown : survey.Shows member node
    · rw [if_pos (decide_eq_true shown), List.flatMap_cons, ih, NodePlacement.of, List.map_map]
      rfl
    · rw [if_neg (by simpa using shown), ih, ownedPods_eq_nil actual shown]
      rfl

theorem placements_perm (actual : survey.potential = false) {nodes : List Node} {pods : List Pod}
    (serves : member.Serves nodes pods) :
    (detailsByNode (survey.placements member nodes)).Perm
      (((pods.filter (survey.finds member)).filter (isPlaced nodes)).map fun pod =>
        (pod.nodeName, PodDetail.of pod)) := by
  have underNode (node : Node) :
      ((survey.ownedPods member node).map fun pod => (node.name, PodDetail.of pod)).Perm
        (((pods.filter (survey.finds member)).filter (·.nodeName = node.name)).map fun pod =>
          (pod.nodeName, PodDetail.of pod)) := by
    refine ((ownedPods_perm actual serves node).map _).trans (List.Perm.of_eq ?_)
    apply List.map_congr_left
    intro pod member
    have here : pod.nodeName = node.name := of_decide_eq_true (List.mem_filter.1 member).2
    rw [here]
  rw [detailsByNode_placements actual]
  refine (List.Perm.flatMap_left nodes fun node _ => underNode node).trans ?_
  rw [← List.map_flatMap]
  refine List.Perm.map _ ?_
  have picked := flatMap_picked_perm serves.distinct Pod.nodeName (pods.filter (survey.finds member))
  rw [List.flatMap_map] at picked
  exact picked

theorem counts_of_mem_placements (actual : survey.potential = false) {nodes : List Node} {pods : List Pod}
    (serves : member.Serves nodes pods) (few : pods.length < 4294967296) {place : NodePlacement}
    (placed : place ∈ survey.placements member nodes) : place.Counts := by
  rw [placements_eq] at placed
  obtain ⟨node, inside, rfl⟩ := List.mem_map.1 placed
  have shown : survey.Shows member node := of_decide_eq_true (List.mem_filter.1 inside).2
  have some : survey.ownedPods member node ≠ [] := by
    have owned := (survey.shows_iff member node).1 shown
    rw [actual, Bool.false_or] at owned
    simpa using owned
  have bound : (survey.ownedPods member node).length < 4294967296 := by
    rw [(ownedPods_perm actual serves node).length_eq, List.filter_filter]
    exact (List.length_filter_le ..).trans_lt few
  exact NodePlacement.counts_of node some bound survey.potential

structure AccountsForPods (survey : Survey) (member : Member) (nodes : List Node) (pods : List Pod)
    (outcome : ClusterOutcome) : Prop where
  answered : outcome.failure = none
  found : (detailsByNode outcome.nodes).Perm
    (((pods.filter (survey.finds member)).filter (isPlaced nodes)).map fun pod => (pod.nodeName, PodDetail.of pod))
  complete : (∀ node ∈ nodes, (member.pods node.name).arrives survey.options.timeout = true) →
    (detailsByNode outcome.nodes).Perm
      (((pods.filter survey.owns).filter (isPlaced nodes)).map fun pod => (pod.nodeName, PodDetail.of pod))
  counts : ∀ place ∈ outcome.nodes, place.Counts

theorem filter_finds_of_arrives {nodes : List Node} (pods : List Pod)
    (arrives : ∀ node ∈ nodes, (member.pods node.name).arrives survey.options.timeout = true) :
    (pods.filter (survey.finds member)).filter (isPlaced nodes) =
      (pods.filter survey.owns).filter (isPlaced nodes) := by
  rw [List.filter_filter, List.filter_filter]
  apply List.filter_congr
  intro pod _
  cases placed : isPlaced nodes pod with
  | false => rfl
  | true =>
    obtain ⟨node, inside, same⟩ := List.mem_map.1 (of_decide_eq_true placed)
    have there := arrives node inside
    rw [same] at there
    rw [finds, there, Bool.true_and]

theorem accountsForPods_outcome (actual : survey.potential = false) {members : Table Member} {cluster : String}
    (present : members.get? cluster = some member) {nodes : List Node}
    (listed : member.nodes.Delivers survey.options.timeout nodes) {pods : List Pod}
    (serves : member.Serves nodes pods) (few : pods.length < 4294967296) :
    survey.AccountsForPods member nodes pods (survey.outcome members cluster) := by
  have answer := (survey.nodes_eq_ok_iff member nodes).2 listed
  rw [outcome_of_listed present answer]
  have found := placements_perm actual serves
  refine ⟨rfl, found, fun arrives => ?_, fun place placed => counts_of_mem_placements actual serves few placed⟩
  rw [← filter_finds_of_arrives pods arrives]
  exact found

/-- In whatever order the tasks of a survey finish, a member that lists its nodes is told of with every pod of the
workload that is assigned to a listed node, once and under that node, but for the pods of nodes whose pods are not
listed. Every place counts the pods it shows, of which there are some, and the counts by phase leave none out just
if every pod is running, pending or failed. -/
theorem survey_accounts_for_every_pod (survey : Survey) (actual : survey.potential = false)
    (members : Table Member) {cluster : String} {member : Member} (present : members.get? cluster = some member)
    {nodes : List Node} (listed : member.nodes.Delivers survey.options.timeout nodes) {pods : List Pod}
    (serves : member.Serves nodes pods) (few : pods.length < 4294967296) {clusters : List String}
    {calls : List Call} {outcomes : List ClusterOutcome}
    (concludes : survey.Concludes members clusters calls outcomes) (position : Nat)
    (asked : clusters[position]? = some cluster) :
    ∃ outcome, outcomes[position]? = some outcome ∧ outcome.cluster = cluster ∧
      survey.AccountsForPods member nodes pods outcome := by
  have sequential := (survey.concludes_iff members clusters outcomes).1 ⟨calls, concludes⟩
  refine ⟨survey.outcome members cluster, ?_, (survey.outcome_reports members cluster).name,
    accountsForPods_outcome actual present listed serves few⟩
  rw [sequential, Survey.outcomes, List.getElem?_map, asked]
  rfl

theorem survey_accounts_for_every_pod_of_half :
    let survey : Survey := ⟨.default, ⟨"default", "nginx", "Deployment", "apps/v1"⟩, false⟩
    let node (name : String) : Node := ⟨⟨name, "", .empty, [], none⟩, [], [], .empty, .empty⟩
    let pod (name node phase owner : String) : Pod :=
      ⟨⟨name, "default", .empty, [⟨"apps/v1", "Deployment", owner⟩], none⟩, node, phase, "", []⟩
    let nodes := [node "n1", node "n2"]
    let pods := [pod "a" "n1" "Running" "nginx", pod "b" "n2" "Running" "nginx", pod "c" "n1" "Unknown" "nginx",
      pod "d" "n1" "Failed" "redis", pod "e" "" "Pending" "nginx"]
    let told (name : String) : Timed (List Pod) :=
      if name = "n2" then .now (.error (.status "/api/v1/pods" 503)) else .now (.ok (pods.filter (·.nodeName = name)))
    let member : Member := ⟨.now (.ok nodes), told⟩
    let members := Table.empty.insert "east" member
    survey.potential = false ∧ members.get? "east" = some member ∧
      member.nodes.Delivers survey.options.timeout nodes ∧ member.Serves nodes pods ∧
      ∃ calls, survey.Concludes members ["west", "east"] calls (survey.outcomes members ["west", "east"]) ∧
        ∃ outcome, (survey.outcomes members ["west", "east"])[1]? = some outcome ∧ outcome.cluster = "east" ∧
          survey.AccountsForPods member nodes pods outcome ∧
          outcome.nodes.map (fun place => (place.node, place.podCount, place.running)) = [("n1", 2, 1)] := by
  intro survey node pod nodes pods told member members
  have present : members.get? "east" = some member := rfl
  have listed : member.nodes.Delivers survey.options.timeout nodes := ⟨Nat.zero_le _, rfl⟩
  have serves : member.Serves nodes pods := by
    refine ⟨by decide, fun name listed answer => ?_⟩
    by_cases silent : name = "n2"
    · simp [member, told, silent, Timed.now] at answer
    · simp only [member, told, if_neg silent, Timed.now, Except.ok.injEq] at answer
      rw [answer]
  obtain ⟨calls, concludes⟩ := (survey.concludes_iff members ["west", "east"] _).2 rfl
  obtain ⟨outcome, found, name, accounts⟩ :=
    survey_accounts_for_every_pod survey rfl members present listed serves (by decide) concludes 1 rfl
  refine ⟨rfl, present, listed, serves, calls, concludes, outcome, found, name, accounts, ?_⟩
  obtain rfl : survey.outcome members "east" = outcome := Option.some.inj found
  decide

end Survey

end ReplicaAtlas
