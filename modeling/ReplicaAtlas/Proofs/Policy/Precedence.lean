import ReplicaAtlas.Proofs.Atlas.Reading
import ReplicaAtlas.Proofs.Store.Scope
import ReplicaAtlas.Proofs.Table.First

/-!
Which policy governs a workload. Of the stored policies that fit the workload and are of its namespace or of none the
governing one is the first: policies of the namespace come before cluster-scoped ones, and in one scope names count by
their bytes. Nothing else of the store matters, neither the order in which policies came nor policies that do not fit.
-/
namespace ReplicaAtlas

namespace WorkloadSelector

structure Fits (selector : WorkloadSelector) (w : Workload) : Prop where
  apiVersion : selector.apiVersion ≠ "" → selector.apiVersion = w.apiVersion
  kind : selector.kind ≠ "" → selector.kind = w.kind
  space : selector.space ≠ "" → selector.space = w.space
  name : selector.name ≠ "" → selector.name = w.name

theorem admits_iff {wanted actual : String} : admits wanted actual = true ↔ (wanted ≠ "" → wanted = actual) := by
  by_cases blank : wanted = ""
  · simp [admits, blank]
  · simp [admits, blank]

theorem selects_iff {selector : WorkloadSelector} {w : Workload} : selector.selects w = true ↔ selector.Fits w := by
  simp only [selects, Bool.and_eq_true, admits_iff]
  constructor
  · rintro ⟨⟨⟨apiVersion, kind⟩, space⟩, name⟩
    exact ⟨apiVersion, kind, space, name⟩
  · rintro ⟨apiVersion, kind, space, name⟩
    exact ⟨⟨⟨apiVersion, kind⟩, space⟩, name⟩

end WorkloadSelector

namespace Policy

def Fits (policy : Policy) (w : Workload) : Prop := ∃ selector ∈ policy.selectors, selector.Fits w

theorem governs_iff {policy : Policy} {w : Workload} : policy.governs w = true ↔ policy.Fits w := by
  simp only [governs, List.any_eq_true, WorkloadSelector.selects_iff, Fits]

/-- A policy reaches the workloads of its namespace, or those of every namespace if it has none. -/
def Reaches (policy : Policy) (space : String) : Prop := policy.space = some space ∨ policy.space = none

structure Concerns (policy : Policy) (w : Workload) : Prop where
  fits : policy.Fits w
  reaches : policy.Reaches w.space

/-- Policies with a namespace come before cluster-scoped ones, and in one scope the smaller name comes first. -/
def Precedes (p q : Policy) : Prop :=
  (p.space ≠ none ∧ q.space = none) ∨
    (p.space = q.space ∧ Text.Utf8.bytes p.name < Text.Utf8.bytes q.name)

theorem Precedes.asymmetric {p q : Policy} (before : p.Precedes q) : ¬ q.Precedes p := by
  rcases before with ⟨spaced, unspaced⟩ | ⟨same, less⟩
  · rintro (⟨respaced, -⟩ | ⟨same, -⟩)
    · exact respaced unspaced
    · exact spaced (same ▸ unspaced)
  · rintro (⟨spaced, unspaced⟩ | ⟨-, greater⟩)
    · exact spaced (same ▸ unspaced)
    · exact List.lt_asymm less greater

end Policy

namespace Store
open StoreOperation

def Candidate (s : Store) (kind : PolicyKind) (w : Workload) (policy : Policy) : Prop :=
  policy ∈ (s.policies kind).values ∧ policy.Concerns w

def FirstCandidate (s : Store) (kind : PolicyKind) (w : Workload) (policy : Policy) : Prop :=
  s.Candidate kind w policy ∧ ∀ other, s.Candidate kind w other → ¬ other.Precedes policy

section Reaching
variable {operations : List StoreOperation} (slashFree : (run operations).SlashFreeSpaces) (kind : PolicyKind)
  {space : String} (named : space ≠ "") (spaceFree : SlashFree space)

include slashFree named spaceFree

theorem mem_reaching (policy : Policy) :
    policy ∈ (run operations).reaching kind space ↔
      policy ∈ ((run operations).policies kind).values ∧ policy.Reaches space := by
  rw [reaching, policiesIn_eq slashFree kind named spaceFree, clusterPolicies_eq slashFree, List.mem_append,
    List.mem_filter, List.mem_filter, decide_eq_true_iff, decide_eq_true_iff, ← and_or_left, Policy.Reaches]

theorem reaching_ordered : ((run operations).reaching kind space).Pairwise Policy.Precedes := by
  have ownSpace : ∀ policy ∈ (run operations).policiesIn kind space, policy.space = some space := by
    rw [policiesIn_eq slashFree kind named spaceFree]
    intro policy member
    exact of_decide_eq_true (List.mem_filter.1 member).2
  have noSpace : ∀ policy ∈ (run operations).clusterPolicies kind, policy.space = none := by
    rw [clusterPolicies_eq slashFree]
    intro policy member
    exact of_decide_eq_true (List.mem_filter.1 member).2
  refine List.pairwise_append.2 ⟨?_, ?_, ?_⟩
  · refine (policiesIn_names slashFree kind named spaceFree).imp_of_mem fun {a b} memberA memberB less => ?_
    exact .inr ⟨(ownSpace a memberA).trans (ownSpace b memberB).symm, less⟩
  · refine (clusterPolicies_names slashFree kind).imp_of_mem fun {a b} memberA memberB less => ?_
    exact .inr ⟨(noSpace a memberA).trans (noSpace b memberB).symm, less⟩
  · intro a memberA b memberB
    refine .inl ⟨?_, noSpace b memberB⟩
    rw [ownSpace a memberA]
    exact Option.some_ne_none space

end Reaching

theorem governing?_eq_some_iff {operations : List StoreOperation} (slashFree : (run operations).SlashFreeSpaces)
    (kind : PolicyKind) {w : Workload} (named : w.space ≠ "") (spaceFree : SlashFree w.space) {policy : Policy} :
    (run operations).governing? kind w = some policy ↔ (run operations).FirstCandidate kind w policy := by
  have ordered := reaching_ordered slashFree kind named spaceFree
  have member := mem_reaching slashFree kind named spaceFree
  rw [governing?, Entries.find?_eq_some_iff_first ordered fun _ _ => Policy.Precedes.asymmetric]
  simp only [member, Policy.governs_iff]
  constructor
  · rintro ⟨⟨⟨stored, reaches⟩, fits⟩, first⟩
    refine ⟨⟨stored, fits, reaches⟩, ?_⟩
    rintro other ⟨stored, fits, reaches⟩
    exact first other ⟨stored, reaches⟩ fits
  · rintro ⟨⟨stored, fits, reaches⟩, first⟩
    refine ⟨⟨⟨stored, reaches⟩, fits⟩, ?_⟩
    rintro other ⟨stored, reaches⟩ fits
    exact first other ⟨stored, fits, reaches⟩

theorem governing?_eq_none_iff {operations : List StoreOperation}
    (slashFree : (run operations).SlashFreeSpaces) (kind : PolicyKind) {w : Workload} (named : w.space ≠ "")
    (spaceFree : SlashFree w.space) :
    (run operations).governing? kind w = none ↔ ¬ ∃ policy, (run operations).Candidate kind w policy := by
  simp only [governing?, List.find?_eq_none, mem_reaching slashFree kind named spaceFree, Policy.governs_iff, not_exists]
  constructor
  · rintro unfit policy ⟨stored, fits, reaches⟩
    exact unfit policy ⟨stored, reaches⟩ fits
  · rintro absent policy ⟨stored, reaches⟩ fits
    exact absent policy ⟨stored, fits, reaches⟩

end Store

end ReplicaAtlas
