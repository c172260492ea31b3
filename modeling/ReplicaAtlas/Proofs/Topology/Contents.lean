import Mathlib.Data.List.Nodup
import Mathlib.Data.List.Perm.Basic
import ReplicaAtlas.Topology

/-!
What a graph draws, apart from where it draws it. Around one workload that is the workload, the policies that govern it
and every cluster that these list; in the overview it is every registered cluster, every policy, every other cluster
that a policy lists, and a summary. A cluster is drawn once, before the first of the policies that list it.
-/
namespace ReplicaAtlas

def Position.origin : Position := ⟨0, 0⟩

namespace Vertex

def unplaced (v : Vertex) : Vertex := { v with position := .origin }

theorem unplaced_ids (vertices : List Vertex) : (vertices.map unplaced).map (·.id) = vertices.map (·.id) := by
  rw [List.map_map]
  rfl

end Vertex

namespace Topology

theorem firstMentions_fresh (seen : List String) (place : Nat) (names : List String) :
    ((firstMentions seen place names).map (·.2)).Nodup ∧
      ∀ name ∈ (firstMentions seen place names).map (·.2), name ∉ seen := by
  induction names generalizing seen place with
  | nil => exact ⟨List.nodup_nil, fun _ member => absurd member List.not_mem_nil⟩
  | cons name names ih =>
    unfold firstMentions
    split
    case isTrue known => exact ih seen (place + 1)
    case isFalse unknown =>
      obtain ⟨distinct, fresh⟩ := ih (name :: seen) (place + 1)
      have head : name ∉ (firstMentions (name :: seen) (place + 1) names).map (·.2) :=
        fun member => fresh name member List.mem_cons_self
      refine ⟨List.nodup_cons.2 ⟨head, distinct⟩, ?_⟩
      intro other member
      rcases List.mem_cons.1 member with rfl | later
      · exact unknown
      · exact fun old => fresh other later (List.mem_cons_of_mem name old)

theorem mem_firstMentions {seen : List String} {place : Nat} {names : List String} {name : String} :
    name ∈ (firstMentions seen place names).map (·.2) ↔ name ∈ names ∧ name ∉ seen := by
  induction names generalizing seen place with
  | nil => simp [firstMentions]
  | cons first names ih =>
    unfold firstMentions
    split
    case isTrue known =>
      rw [ih, List.mem_cons]
      constructor
      · intro ⟨later, fresh⟩
        exact ⟨.inr later, fresh⟩
      · intro ⟨member, fresh⟩
        have apart : name ≠ first := fun same => fresh (same ▸ known)
        exact ⟨member.resolve_left apart, fresh⟩
    case isFalse unknown =>
      rw [List.map_cons, List.mem_cons, List.mem_cons, ih, List.mem_cons]
      by_cases same : name = first
      · subst same
        simp [unknown]
      · simp [same]

/-- It does not matter in what order names were seen, nor where counting starts. -/
theorem firstMentions_congr {seen other : List String} (same : ∀ name, name ∈ seen ↔ name ∈ other)
    (place start : Nat) (names : List String) :
    (firstMentions seen place names).map (·.2) = (firstMentions other start names).map (·.2) := by
  induction names generalizing seen other place start with
  | nil => rfl
  | cons name names ih =>
    have grown (third : String) : third ∈ name :: seen ↔ third ∈ name :: other := by
      rw [List.mem_cons, List.mem_cons, same]
    by_cases known : name ∈ seen
    · rw [firstMentions, firstMentions, if_pos known, if_pos ((same name).1 known)]
      exact ih same _ _
    · rw [firstMentions, firstMentions, if_neg known, if_neg (fun member => known ((same name).2 member))]
      exact congrArg (name :: ·) (ih grown _ _)

/-- To go on with more names is to start with them when the names before have been seen. -/
theorem firstMentions_append (seen : List String) (place : Nat) (names more : List String) :
    (firstMentions seen place (names ++ more)).map (·.2) =
      (firstMentions seen place names).map (·.2) ++
        (firstMentions (seen ++ (firstMentions seen place names).map (·.2)) 0 more).map (·.2) := by
  induction names generalizing seen place with
  | nil =>
    simp only [firstMentions, List.nil_append, List.map_nil, List.append_nil]
    exact firstMentions_congr (fun _ => Iff.rfl) _ _ _
  | cons name names ih =>
    rw [List.cons_append, firstMentions, firstMentions]
    by_cases known : name ∈ seen
    · rw [if_pos known, if_pos known]
      exact ih seen (place + 1)
    · rw [if_neg known, if_neg known, List.map_cons, List.map_cons, List.cons_append, ih (name :: seen)]
      -- The name counts as seen from here on, on one side before the others and on the other side behind them.
      have moved (other : String) : other ∈ name :: seen ++ (firstMentions (name :: seen) (place + 1) names).map (·.2) ↔
          other ∈ seen ++ name :: (firstMentions (name :: seen) (place + 1) names).map (·.2) :=
        List.perm_middle.symm.mem_iff
      rw [firstMentions_congr moved]

theorem firstMentions_ordered (seen : List String) (place : Nat) (names : List String) :
    ((firstMentions seen place names).map (·.2)).Pairwise fun a b => names.idxOf a < names.idxOf b := by
  induction names generalizing seen place with
  | nil => exact List.Pairwise.nil
  | cons name names ih =>
    have later {other : String} (apart : other ≠ name) : (name :: names).idxOf other = names.idxOf other + 1 :=
      List.idxOf_cons_ne names (Ne.symm apart)
    have apart {seen : List String} {place : Nat} (known : name ∈ seen) {other : String}
        (member : other ∈ (firstMentions seen place names).map (·.2)) : other ≠ name := by
      rintro rfl
      exact (mem_firstMentions.1 member).2 known
    -- Behind the first name, which is drawn now or was seen before, all places are one further.
    have shifted {seen : List String} {place : Nat} (known : name ∈ seen) :
        ((firstMentions seen place names).map (·.2)).Pairwise
          fun a b => (name :: names).idxOf a < (name :: names).idxOf b := by
      refine (ih seen place).imp_of_mem fun {a b} memberA memberB less => ?_
      rw [later (apart known memberA), later (apart known memberB)]
      exact Nat.succ_lt_succ less
    rw [firstMentions]
    split
    case isTrue known => exact shifted known
    case isFalse unknown =>
      refine List.pairwise_cons.2 ⟨fun other member => ?_, shifted List.mem_cons_self⟩
      rw [List.idxOf_cons_self, later (apart List.mem_cons_self member)]
      exact Nat.succ_pos _

def freshNames (seen : List String) (policy : Policy) : List String :=
  (firstMentions seen 0 policy.placement.clusterNames).map (·.2)

def mentions (seen : List String) : List Policy → List String
  | [] => []
  | policy :: rest => freshNames seen policy ++ mentions (seen ++ freshNames seen policy) rest

def listedNames (policies : List Policy) : List String := policies.flatMap (·.placement.clusterNames)

/-- To go through the lists of the policies is to go through one list. -/
theorem mentions_eq_firstMentions (seen : List String) (policies : List Policy) :
    mentions seen policies = (firstMentions seen 0 (listedNames policies)).map (·.2) := by
  induction policies generalizing seen with
  | nil => rfl
  | cons policy rest ih =>
    have whole : listedNames (policy :: rest) = policy.placement.clusterNames ++ listedNames rest := List.flatMap_cons
    rw [mentions, ih, whole, firstMentions_append]
    rfl

theorem mentions_fresh (seen : List String) (policies : List Policy) :
    (mentions seen policies).Nodup ∧ ∀ name ∈ mentions seen policies, name ∉ seen := by
  rw [mentions_eq_firstMentions]
  exact firstMentions_fresh seen 0 _

theorem mem_mentions {seen : List String} {policies : List Policy} {name : String} :
    name ∈ mentions seen policies ↔
      (∃ policy ∈ policies, name ∈ policy.placement.clusterNames) ∧ name ∉ seen := by
  rw [mentions_eq_firstMentions, mem_firstMentions, listedNames, List.mem_flatMap]

theorem mem_append_mentions {seen : List String} {policies : List Policy} {name : String} :
    name ∈ seen ++ mentions seen policies ↔
      name ∈ seen ∨ ∃ policy ∈ policies, name ∈ policy.placement.clusterNames := by
  rw [List.mem_append, mem_mentions]
  by_cases old : name ∈ seen
  · simp only [old, true_or]
  · simp only [old, false_or, not_false_eq_true, and_true]

theorem append_mentions_nodup {seen : List String} (distinct : seen.Nodup) (policies : List Policy) :
    (seen ++ mentions seen policies).Nodup := by
  obtain ⟨mentionedDistinct, fresh⟩ := mentions_fresh seen policies
  refine List.nodup_append.2 ⟨distinct, mentionedDistinct, ?_⟩
  rintro name known _ mentioned rfl
  exact fresh name mentioned known

theorem mentions_ordered (seen : List String) (policies : List Policy) :
    (mentions seen policies).Pairwise
      fun a b => (listedNames policies).idxOf a < (listedNames policies).idxOf b := by
  rw [mentions_eq_firstMentions]
  exact firstMentions_ordered seen 0 _

theorem named?_eq_some {clusters : List Cluster} {name : String} {cluster : Cluster}
    (found : named? clusters name = some cluster) : cluster ∈ clusters ∧ cluster.name = name := by
  have member := List.mem_of_find?_eq_some found
  have called := List.find?_some found
  exact ⟨List.mem_reverse.1 member, of_decide_eq_true called⟩

theorem named?_eq_none {clusters : List Cluster} {name : String} (missing : named? clusters name = none) :
    name ∉ clusters.map (·.name) := by
  intro registered
  obtain ⟨cluster, member, called⟩ := List.mem_map.1 registered
  have other := List.find?_eq_none.1 missing cluster (List.mem_reverse.2 member)
  exact other (decide_eq_true called)

def unplacedCluster (name : String) (cluster : Option Cluster) : Vertex := clusterVertex name cluster .origin

def unplacedPolicy (policy : Policy) : Vertex := policyVertex policy .origin

def listedCluster (clusters : List Cluster) (name : String) : Vertex := unplacedCluster name (named? clusters name)

def registeredCluster (cluster : Cluster) : Vertex := unplacedCluster cluster.name (some cluster)

def unregisteredCluster (name : String) : Vertex := unplacedCluster name none

/-- The policies in their order, each behind the clusters that it is the first to mention. -/
def inTurn (cluster : String → Vertex) (seen : List String) : List Policy → List Vertex
  | [] => []
  | policy :: rest =>
    (freshNames seen policy).map cluster ++
      unplacedPolicy policy :: inTurn cluster (seen ++ freshNames seen policy) rest

section InTurn
variable (cluster : String → Vertex) (seen : List String) (policies : List Policy)

theorem inTurn_perm :
    (inTurn cluster seen policies).Perm ((mentions seen policies).map cluster ++ policies.map unplacedPolicy) := by
  -- The names seen grow with each policy, and what is drawn later leaves them out.
  induction policies generalizing seen with
  | nil => exact List.Perm.nil
  | cons policy rest ih =>
    have tail := ih (seen ++ freshNames seen policy)
    rw [inTurn, mentions, List.map_append, List.map_cons, List.append_assoc]
    refine List.Perm.append_left _ ?_
    exact (tail.cons _).trans List.perm_middle.symm

variable {cluster} (shows : ∀ name, (cluster name).kind = .cluster)

include shows

/-- Policies are drawn in their order, whatever clusters are drawn between them. -/
theorem inTurn_policies : (inTurn cluster seen policies).filter (·.kind = .policy) = policies.map unplacedPolicy := by
  induction policies generalizing seen with
  | nil => rfl
  | cons policy rest ih =>
    have clustersAlone (names : List String) : (names.map cluster).filter (·.kind = .policy) = [] := by
      simp [shows]
    have kept (later : List Vertex) : (unplacedPolicy policy :: later).filter (·.kind = .policy) =
        unplacedPolicy policy :: later.filter (·.kind = .policy) := rfl
    rw [inTurn, List.filter_append, clustersAlone, kept, ih]
    rfl

/-- Clusters are drawn in the order of their first mention, whatever policies are drawn between them. -/
theorem inTurn_clusters :
    (inTurn cluster seen policies).filter (·.kind = .cluster) = (mentions seen policies).map cluster := by
  induction policies generalizing seen with
  | nil => rfl
  | cons policy rest ih =>
    have clustersAll (names : List String) : (names.map cluster).filter (·.kind = .cluster) = names.map cluster := by
      simp [shows]
    have passed (later : List Vertex) : (unplacedPolicy policy :: later).filter (·.kind = .cluster) =
        later.filter (·.kind = .cluster) := rfl
    rw [inTurn, List.filter_append, clustersAll, passed, ih, mentions, List.map_append]

end InTurn

theorem columns_unplaced (clusters : List Cluster) (column : Nat) (seen : List String) (policies : List Policy) :
    (columns clusters column seen policies).map Vertex.unplaced = inTurn (listedCluster clusters) seen policies := by
  induction policies generalizing column seen with
  | nil => rfl
  | cons policy rest ih =>
    rw [inTurn, ← ih (column + 1)]
    simp only [columns, freshNames, List.map_append, List.map_map, List.map_cons]
    rfl

private theorem unplaced_zipIdx (names : List String) (first : Nat) :
    ((names.zipIdx first).map fun (name, place) => clusterVertex name none ⟨100, 100 + 100 * place⟩).map
      Vertex.unplaced = names.map unregisteredCluster := by
  have stripped : (names.zipIdx first).map Prod.fst = names := List.zipIdx_map_fst first names
  conv_rhs => rw [← stripped]
  rw [List.map_map, List.map_map]
  rfl

theorem rows_unplaced (row : Nat) (seen : List String) (policies : List Policy) :
    (rows row seen policies).map Vertex.unplaced = inTurn unregisteredCluster seen policies := by
  induction policies generalizing row seen with
  | nil => rfl
  | cons policy rest ih =>
    rw [inTurn, ← ih (row + 1), rows, List.map_append, List.map_cons, unplaced_zipIdx]
    rfl

theorem registeredVertices_unplaced (row : Nat) (clusters : List Cluster) :
    (registeredVertices row clusters).map Vertex.unplaced = clusters.map registeredCluster := by
  induction clusters generalizing row with
  | nil => rfl
  | cons cluster rest ih => exact congrArg (registeredCluster cluster :: ·) (ih (row + 1))

section Graphs
variable (w : Workload) (policies : List Policy) (clusters : List Cluster)

theorem ofWorkload_unplaced :
    (ofWorkload w policies clusters).vertices.map Vertex.unplaced =
      (resourceVertex w).unplaced :: inTurn (listedCluster clusters) [] (policies.filter (·.governs w)) := by
  rw [ofWorkload, List.map_cons, columns_unplaced]

theorem overview_unplaced :
    (overview policies clusters).vertices.map Vertex.unplaced =
      clusters.map registeredCluster ++ inTurn unregisteredCluster (clusters.map (·.name)) policies ++
        [(summaryVertex policies.length clusters.length).unplaced] := by
  rw [overview, List.map_append, List.map_append, registeredVertices_unplaced, rows_unplaced]
  rfl

theorem ofWorkload_perm :
    let governing := policies.filter (·.governs w)
    ((ofWorkload w policies clusters).vertices.map Vertex.unplaced).Perm
      ((resourceVertex w).unplaced ::
        ((mentions [] governing).map (listedCluster clusters) ++ governing.map unplacedPolicy)) := by
  rw [ofWorkload_unplaced]
  exact (inTurn_perm _ _ _).cons _

theorem overview_perm :
    ((overview policies clusters).vertices.map Vertex.unplaced).Perm
      ((summaryVertex policies.length clusters.length).unplaced ::
        (clusters.map registeredCluster ++
          ((mentions (clusters.map (·.name)) policies).map unregisteredCluster ++ policies.map unplacedPolicy))) := by
  rw [overview_unplaced]
  refine (List.perm_append_singleton _ _).trans (List.Perm.cons _ ?_)
  exact (inTurn_perm _ _ _).append_left _

theorem ofWorkload_ids_perm :
    let governing := policies.filter (·.governs w)
    ((ofWorkload w policies clusters).vertices.map (·.id)).Perm
      (resourceId w :: ((mentions [] governing).map clusterId ++ governing.map policyId)) := by
  have drawn := (ofWorkload_perm w policies clusters).map (·.id)
  rw [Vertex.unplaced_ids, List.map_cons, List.map_append, List.map_map, List.map_map] at drawn
  exact drawn

theorem overview_ids_perm :
    let registered := clusters.map (·.name)
    ((overview policies clusters).vertices.map (·.id)).Perm
      (summaryId :: ((registered ++ mentions registered policies).map clusterId ++ policies.map policyId)) := by
  have drawn := (overview_perm policies clusters).map (·.id)
  rw [Vertex.unplaced_ids] at drawn
  simp only [List.map_cons, List.map_append, List.map_map] at drawn
  simp only [List.map_append, List.map_map, List.append_assoc]
  exact drawn

end Graphs

end Topology

end ReplicaAtlas
