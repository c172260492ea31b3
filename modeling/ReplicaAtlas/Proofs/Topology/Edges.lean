import Mathlib.Data.List.Infix
import Mathlib.Data.List.Pairwise
import ReplicaAtlas.Proofs.Topology.Identity
import ReplicaAtlas.Proofs.Topology.Shape

/-!
Which edges of a drawn graph have an identifier of their own. An edge is drawn for every name that a policy lists, as
often as it is listed, and is identified by the identifiers of its ends with a hyphen between them. So edges share an
identifier where a policy lists a cluster twice, and where the label of a policy goes on with what begins the name of a
cluster that another policy lists. All other edges are told apart.
-/
namespace ReplicaAtlas.Topology

private def mark : List Char := ['-', 'c', 'l', 'u', 's', 't', 'e', 'r', '-']

private theorem toList_mark : "-cluster-".toList = mark := rfl

private theorem toList_marked (label name : String) :
    (label ++ "-cluster-" ++ name).toList = label.toList ++ (mark ++ name.toList) := by
  rw [String.toList_append, String.toList_append, List.append_assoc, toList_mark]

/-- The mark overlaps with itself in its hyphens alone. -/
private theorem overlap_of_suffix {rest : List Char} (suffix : rest <:+ mark) (start : rest.head? = some '-') :
    rest = ['-'] ∨ rest = mark := by
  have overlaps : ∀ text ∈ mark.tails, text.head? = some '-' → text = ['-'] ∨ text = mark := by decide
  exact overlaps rest ((List.mem_tails rest mark).2 suffix) start

/-- A mark behind some text begins where the other one begins, or with its last hyphen, or behind it. -/
private theorem mark_append_cases {more name other : List Char} (same : mark ++ name = more ++ (mark ++ other)) :
    (more = [] ∧ name = other) ∨ (more = "-cluster".toList ∧ name = "cluster-".toList ++ other) ∨
      ∃ middle, more = mark ++ middle ∧ name = middle ++ (mark ++ other) := by
  rcases List.append_eq_append_iff.1 same with ⟨middle, longer, names⟩ | ⟨rest, whole, names⟩
  · exact .inr (.inr ⟨middle, longer, names⟩)
  · cases rest with
    | nil =>
      have ended : more = mark := by simpa using whole.symm
      exact .inr (.inr ⟨[], by simpa using ended, by simpa using names.symm⟩)
    | cons c rest =>
      -- The mark behind the text begins within the other one, and with a hyphen.
      have start : c = '-' := (List.cons.inj names).1.symm
      rcases overlap_of_suffix ⟨more, whole.symm⟩ (congrArg some start) with hyphen | everything
      · obtain ⟨rfl, rfl⟩ := List.cons.inj hyphen
        refine .inr (.inl ⟨?_, (List.cons.inj names).2.symm⟩)
        exact List.append_cancel_right whole.symm
      · rw [everything] at whole names
        exact .inl ⟨List.append_left_eq_self.1 whole.symm, (List.append_cancel_left names).symm⟩

/-- The label of `q` goes on with what begins the name, so that the other name is all that is left of it. -/
inductive RunsInto (p : Policy) (name : String) (q : Policy) (other : String) : Prop
  | touching (label : q.label = p.label ++ "-cluster") (called : name = "cluster-" ++ other)
  | spanning (middle : String) (label : q.label = p.label ++ "-cluster-" ++ middle)
      (called : name = middle ++ "-cluster-" ++ other)

theorem schedule_id (policy : Policy) (name : String) :
    (schedule policy name).id = "edge-policy-" ++ (policy.label ++ "-cluster-" ++ name) := by
  have ends : (schedule policy name).id = "edge-" ++ ("policy-" ++ policy.label) ++ "-" ++ ("cluster-" ++ name) := by
    rw [← policyId_eq]
    rfl
  rw [ends]
  apply String.toList_inj.1
  simp [String.toList_append]

theorem schedule_id_eq_of_runsInto {p q : Policy} {name other : String} (runs : RunsInto p name q other) :
    (schedule p name).id = (schedule q other).id := by
  rw [schedule_id, schedule_id]
  apply String.toList_inj.1
  cases runs with
  | touching label called =>
    rw [label, called]
    simp [String.toList_append]
  | spanning middle label called =>
    rw [label, called]
    simp [String.toList_append]

private theorem eq_or_runsInto {p q : Policy} {name other : String} {more : List Char}
    (label : q.label.toList = p.label.toList ++ more)
    (rest : mark ++ name.toList = more ++ (mark ++ other.toList)) :
    (p.label = q.label ∧ name = other) ∨ RunsInto p name q other := by
  rcases mark_append_cases rest with ⟨rfl, names⟩ | ⟨rfl, names⟩ | ⟨middle, rfl, names⟩
  · rw [List.append_nil] at label
    exact .inl ⟨String.toList_inj.1 label.symm, String.toList_inj.1 names⟩
  · refine .inr (.touching (String.toList_inj.1 ?_) (String.toList_inj.1 ?_))
    · simp [String.toList_append, label]
    · simp [String.toList_append, names]
  · refine .inr (.spanning (String.ofList middle) (String.toList_inj.1 ?_) (String.toList_inj.1 ?_))
    · rw [toList_marked, String.toList_ofList]
      exact label
    · rw [toList_marked, String.toList_ofList]
      exact names

theorem schedule_id_eq_iff {p q : Policy} {name other : String} :
    (schedule p name).id = (schedule q other).id ↔
      (p.label = q.label ∧ name = other) ∨ RunsInto p name q other ∨ RunsInto q other p name := by
  constructor
  · intro same
    rw [schedule_id, schedule_id] at same
    have lists := congrArg String.toList (append_injective "edge-policy-" same)
    simp only [toList_marked] at lists
    rcases List.append_eq_append_iff.1 lists with ⟨more, label, rest⟩ | ⟨more, label, rest⟩
    · rcases eq_or_runsInto label rest with equal | runs
      · exact .inl equal
      · exact .inr (.inl runs)
    · rcases eq_or_runsInto label rest with equal | runs
      · exact .inl ⟨equal.1.symm, equal.2.symm⟩
      · exact .inr (.inr runs)
  · rintro (⟨labels, rfl⟩ | runs | runs)
    · rw [schedule_id, schedule_id, labels]
    · exact schedule_id_eq_of_runsInto runs
    · exact (schedule_id_eq_of_runsInto runs).symm

theorem label_ne_of_runsInto {p q : Policy} {name other : String} (runs : RunsInto p name q other) :
    p.label ≠ q.label := by
  intro same
  have lengths := congrArg String.length same
  cases runs with
  | touching label called =>
    rw [label] at lengths
    simp [String.length_append] at lengths
  | spanning middle label called =>
    rw [label, String.length_append, String.length_append] at lengths
    have marked : "-cluster-".length = 9 := rfl
    omega

theorem infix_of_runsInto {p q : Policy} {name other : String} (runs : RunsInto p name q other) :
    "cluster-".toList <:+: name.toList := by
  cases runs with
  | touching label called =>
    refine ⟨[], other.toList, ?_⟩
    rw [called, String.toList_append, List.nil_append]
  | spanning middle label called =>
    refine ⟨middle.toList ++ ['-'], other.toList, ?_⟩
    rw [called]
    simp [String.toList_append]

/-- No policy lists a cluster twice, and no label runs into the name of a cluster. -/
structure NamesApart (policies : List Policy) : Prop where
  once : ∀ policy ∈ policies, policy.placement.clusterNames.Nodup
  apart : ∀ p ∈ policies, ∀ q ∈ policies, ∀ name ∈ p.placement.clusterNames, ∀ other ∈ q.placement.clusterNames,
    ¬ RunsInto p name q other

theorem scheduleEdges_ids (policy : Policy) :
    (scheduleEdges policy).map Edge.id = policy.placement.clusterNames.map fun name => (schedule policy name).id :=
  List.map_map

theorem schedule_id_injective (policy : Policy) : Function.Injective fun name => (schedule policy name).id := by
  intro name other same
  rcases schedule_id_eq_iff.1 same with ⟨-, equal⟩ | runs | runs
  · exact equal
  · exact absurd rfl (label_ne_of_runsInto runs)
  · exact absurd rfl (label_ne_of_runsInto runs)

/-- Given that the policies are told apart, edges that share an identifier start from one policy, which lists a cluster
twice, or from two policies, one of whose labels runs into a name. -/
theorem schedules_ids_nodup_iff {policies : List Policy} (labels : (policies.map Policy.label).Nodup) :
    ((policies.flatMap scheduleEdges).map Edge.id).Nodup ↔ NamesApart policies := by
  rw [List.map_flatMap, List.nodup_flatMap]
  simp only [scheduleEdges_ids, List.nodup_map_iff (schedule_id_injective _)]
  constructor
  · intro ⟨once, disjoint⟩
    refine ⟨once, fun p memberP q memberQ name named other listed runs => ?_⟩
    -- Disjointness is stated for two policies that differ.
    have differ : p ≠ q := fun same => label_ne_of_runsInto runs (congrArg Policy.label same)
    have shared := schedule_id_eq_of_runsInto runs
    have symmetric : Std.Symm (Function.onFun List.Disjoint fun policy : Policy =>
        policy.placement.clusterNames.map fun name => (schedule policy name).id) := ⟨fun _ _ => List.disjoint_symm⟩
    have apart := disjoint.forall memberP memberQ differ
    have ofQ : (schedule q other).id ∈ q.placement.clusterNames.map fun name => (schedule q name).id :=
      List.mem_map_of_mem listed
    exact apart (List.mem_map_of_mem named) (shared ▸ ofQ)
  · intro names
    refine ⟨names.once, ?_⟩
    refine (List.pairwise_map.1 labels).imp_of_mem fun {p q} memberP memberQ differ => ?_
    intro id ofP ofQ
    obtain ⟨name, named, rfl⟩ := List.mem_map.1 ofP
    obtain ⟨other, listed, same⟩ := List.mem_map.1 ofQ
    rcases schedule_id_eq_iff.1 same with ⟨equal, -⟩ | runs | runs
    · exact differ equal.symm
    · exact names.apart q memberQ p memberP other listed name named runs
    · exact names.apart p memberP q memberQ name named other listed runs

theorem namesApart_iff_of_unmarked {policies : List Policy}
    (unmarked : ∀ policy ∈ policies, ∀ name ∈ policy.placement.clusterNames, ¬ "cluster-".toList <:+: name.toList) :
    NamesApart policies ↔ ∀ policy ∈ policies, policy.placement.clusterNames.Nodup := by
  constructor
  · intro names
    exact names.once
  · intro once
    refine ⟨once, fun p memberP q memberQ name named other listed runs => ?_⟩
    exact unmarked p memberP name named (infix_of_runsInto runs)

theorem edges_perm (t : Topology) : (t.propagations ++ t.schedules).Perm t.edges := by
  have others : t.schedules = t.edges.filter fun e => !decide (e.kind = .propagate) := by
    refine List.filter_congr fun e _ => ?_
    cases e.kind with
    | propagate => rfl
    | schedule => rfl
  rw [others]
  exact List.filter_append_perm _ _

theorem edge_ids_nodup_iff (t : Topology) :
    (t.edges.map Edge.id).Nodup ↔ (t.propagations.map Edge.id ++ t.schedules.map Edge.id).Nodup := by
  rw [← List.map_append]
  exact ((edges_perm t).map Edge.id).symm.nodup_iff

theorem policyVertices_ids {t : Topology} {policies : List Policy}
    (drawn : t.policyVertices.map Vertex.unplaced = policies.map unplacedPolicy) :
    t.policyVertices.map (·.id) = policies.map policyId := by
  have ids := congrArg (List.map (·.id)) drawn
  rw [Vertex.unplaced_ids, List.map_map] at ids
  exact ids

theorem propagation_ids_nodup (w : Workload) {policies : List Policy} (distinct : (policies.map policyId).Nodup) :
    ((policies.map (propagation w)).map Edge.id).Nodup := by
  have ids : (policies.map (propagation w)).map Edge.id =
      (policies.map policyId).map (("edge-" ++ resourceId w ++ "-") ++ ·) := by
    rw [List.map_map, List.map_map]
    rfl
  rw [ids]
  exact distinct.map (append_injective _)

theorem propagation_id_ne_schedule_id (w : Workload) (policy other : Policy) (name : String) :
    (propagation w policy).id ≠ (schedule other name).id := by
  have ofWorkload : (propagation w policy).id =
      "edge-" ++ ("resource-" ++ (w.space ++ "-" ++ w.name ++ "-" ++ policyId policy)) := by
    simp only [Edge.id, propagation, resourceId, String.append_assoc]
  have ofPolicy : (schedule other name).id = "edge-" ++ ("policy-" ++ (other.label ++ "-" ++ clusterId name)) := by
    simp only [Edge.id, schedule, policyId_eq, String.append_assoc]
  intro same
  have rest := append_injective "edge-" (ofWorkload.symm.trans (same.trans ofPolicy))
  have first := congrArg (fun text : String => text.toList.head?) rest
  simp [String.toList_append] at first

/-- What it takes for the edges of a graph that shows the policies to have identifiers of their own. -/
structure TellsEdgesApart (policies : List Policy) (t : Topology) : Prop where
  exact : (t.edges.map Edge.id).Nodup ↔ NamesApart policies
  unmarked : (∀ policy ∈ policies, ∀ name ∈ policy.placement.clusterNames, ¬ "cluster-".toList <:+: name.toList) →
    ((t.edges.map Edge.id).Nodup ↔ ∀ policy ∈ policies, policy.placement.clusterNames.Nodup)

theorem TellsEdgesApart.of_exact {policies : List Policy} {t : Topology}
    (exact : (t.edges.map Edge.id).Nodup ↔ NamesApart policies) : TellsEdgesApart policies t :=
  ⟨exact, fun unmarked => exact.trans (namesApart_iff_of_unmarked unmarked)⟩

/-- Around a workload and in the overview, where the vertices of the policies have identifiers of their own, so have the
edges just if no policy lists a cluster twice and no policy's label runs into the name of a cluster. -/
theorem edges_distinct_by_names (w : Workload) (policies : List Policy) (clusters : List Cluster) :
    (((ofWorkload w policies clusters).policyVertices.map (·.id)).Nodup →
      TellsEdgesApart (policies.filter (·.governs w)) (ofWorkload w policies clusters)) ∧
    (((overview policies clusters).policyVertices.map (·.id)).Nodup →
      TellsEdgesApart policies (overview policies clusters)) := by
  constructor
  · intro distinct
    rw [policyVertices_ids (ofWorkload_policyVertices w policies clusters)] at distinct
    refine .of_exact ?_
    rw [edge_ids_nodup_iff, ofWorkload_propagations, ofWorkload_schedules, List.nodup_append,
      schedules_ids_nodup_iff ((policyIds_nodup_iff _).1 distinct)]
    refine ⟨fun apart => apart.2.1, fun names => ⟨propagation_ids_nodup w distinct, names, ?_⟩⟩
    intro id ofWorkload other ofPolicy
    obtain ⟨e, propagates, rfl⟩ := List.mem_map.1 ofWorkload
    obtain ⟨policy, -, rfl⟩ := List.mem_map.1 propagates
    obtain ⟨f, schedules, rfl⟩ := List.mem_map.1 ofPolicy
    obtain ⟨listing, -, listed⟩ := List.mem_flatMap.1 schedules
    obtain ⟨name, -, rfl⟩ := mem_scheduleEdges.1 listed
    exact propagation_id_ne_schedule_id w policy listing name
  · intro distinct
    rw [policyVertices_ids (overview_policyVertices policies clusters)] at distinct
    refine .of_exact ?_
    rw [edge_ids_nodup_iff, overview_propagations, overview_schedules]
    exact schedules_ids_nodup_iff ((policyIds_nodup_iff _).1 distinct)

def drawnFor : Workload := ⟨"team", "nginx", "Deployment", "apps/v1"⟩

def edgeIds (t : Topology) : List String := t.edges.map Edge.id

/-- Policies that are told apart, one of which lists a cluster twice, or of which one runs into a name that the other
lists, have edges that share an identifier, around a workload and in the overview. -/
theorem edges_share_identifiers :
    let twice := [listing none "web" ["east", "east"]]
    let joined := [listing none "a" ["b-cluster-c"], listing none "a-cluster-b" ["c"]]
    (twice.map policyId).Nodup ∧
      edgeIds (overview twice []) = ["edge-policy-web-cluster-east", "edge-policy-web-cluster-east"] ∧
      ¬ (edgeIds (overview twice [])).Nodup ∧ ¬ (edgeIds (ofWorkload drawnFor twice [])).Nodup ∧
    (joined.map policyId).Nodup ∧
      edgeIds (overview joined []) = ["edge-policy-a-cluster-b-cluster-c", "edge-policy-a-cluster-b-cluster-c"] ∧
      ¬ (edgeIds (overview joined [])).Nodup ∧ ¬ (edgeIds (ofWorkload drawnFor joined [])).Nodup := by
  decide +kernel

/-- A label that ends in the mark's letters does no harm by itself. -/
theorem edges_distinct_by_names_of_marked_label :
    let policies := [listing (some "team") "web-cluster" ["east", "far-east"], listing none "team-web" ["east"]]
    ((ofWorkload drawnFor policies []).policyVertices.map (·.id)).Nodup ∧
      (edgeIds (ofWorkload drawnFor policies [])).Nodup ∧
      ((overview policies []).policyVertices.map (·.id)).Nodup ∧ (edgeIds (overview policies [])).Nodup := by
  intro policies
  have around : ((ofWorkload drawnFor policies []).policyVertices.map (·.id)).Nodup := by decide +kernel
  have everywhere : ((overview policies []).policyVertices.map (·.id)).Nodup := by decide +kernel
  have told := edges_distinct_by_names drawnFor policies []
  refine ⟨around, ((told.1 around).unmarked ?_).2 ?_, everywhere, ((told.2 everywhere).unmarked ?_).2 ?_⟩
  all_goals decide +kernel

end ReplicaAtlas.Topology
