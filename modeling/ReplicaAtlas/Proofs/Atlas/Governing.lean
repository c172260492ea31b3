import ReplicaAtlas.Proofs.Policy.Precedence

/-!
The governing policy as an atlas tells it. While policies are in reach it is the first candidate among the stored
ones, so it depends on what is stored and not on the order in which that was stored, and a change of the store that
leaves the candidates alone leaves it alone.
-/
namespace ReplicaAtlas

/-- A policy of the other kind, of another namespace than the workload's, or that does not fit the workload. -/
def Policy.Unrelated (policy : Policy) (kind asked : PolicyKind) (w : Workload) : Prop :=
  kind ≠ asked ∨ (∃ space, policy.space = some space ∧ space ≠ w.space) ∨ ¬ policy.Fits w

theorem Policy.Unrelated.not_concerns {policy : Policy} {kind : PolicyKind} {w : Workload}
    (unrelated : policy.Unrelated kind kind w) : ¬ policy.Concerns w := by
  rintro ⟨fits, reaches⟩
  rcases unrelated with other | ⟨space, spaced, elsewhere⟩ | unfit
  · exact other rfl
  · rcases reaches with own | unspaced
    · exact elsewhere (Option.some.inj (spaced.symm.trans own))
    · exact Option.some_ne_none space (spaced.symm.trans unspaced)
  · exact unfit fits

namespace Store
open StoreOperation

theorem run_append (operations : List StoreOperation) (operation : StoreOperation) :
    run (operations ++ [operation]) = ((run operations).perform operation).1 := by
  rw [run, run, List.foldl_append, List.foldl_cons, List.foldl_nil]

theorem get?_perform_iff (s : Store) (operation : StoreOperation) (shelf : Shelf) {key : String}
    {record : shelf.Record} :
    ((s.perform operation).1.table shelf).get? key = some record ↔
      (∃ written, Write.LastPut (operation.writes shelf) key written ∧ record = shelf.recorded written) ∨
        ((∀ write ∈ operation.writes shelf, write.key ≠ key) ∧ (s.table shelf).get? key = some record) := by
  rw [table_perform]
  exact Table.get?_writes_iff (s.table shelf)

theorem mem_policies {s : Store} {kind : PolicyKind} {policy : Policy} :
    policy ∈ (s.policies kind).values ↔ ∃ key, (s.table (.policies kind)).get? key = some policy :=
  Table.mem_values

/-- Neither what the operation puts concerns the workload nor what it writes over. -/
structure SparesCandidates (s : Store) (kind : PolicyKind) (w : Workload) (operation : StoreOperation) : Prop where
  puts : ∀ key policy, .put key policy ∈ operation.writes (.policies kind) → ¬ Policy.Concerns policy w
  overwrites : ∀ write ∈ operation.writes (.policies kind), ∀ policy,
    (s.policies kind).get? write.key = some policy → ¬ policy.Concerns w

theorem candidate_perform_iff {s : Store} {kind : PolicyKind} {w : Workload} {operation : StoreOperation}
    (spares : s.SparesCandidates kind w operation) (policy : Policy) :
    (s.perform operation).1.Candidate kind w policy ↔ s.Candidate kind w policy := by
  refine and_congr_left fun concerns => ?_
  simp only [mem_policies]
  refine exists_congr fun key => ?_
  -- What stands under a key was put there by the operation, or stood there and the operation spared the key.
  rw [get?_perform_iff]
  constructor
  · rintro (⟨_, last, rfl⟩ | ⟨-, stands⟩)
    · exact absurd concerns (spares.puts key policy last.mem)
    · exact stands
  · intro stands
    refine .inr ⟨?_, stands⟩
    rintro write member rfl
    exact spares.overwrites write member policy stands concerns

theorem sparesCandidates_of_untouched {s : Store} {kind : PolicyKind} {w : Workload} {operation : StoreOperation}
    (untouched : operation.writes (.policies kind) = []) : s.SparesCandidates kind w operation := by
  constructor
  · intro key policy puts
    rw [untouched] at puts
    exact absurd puts List.not_mem_nil
  · intro write member
    rw [untouched] at member
    exact absurd member List.not_mem_nil

theorem sparesCandidates_put {s : Store} {kind asked : PolicyKind} {w : Workload} {policy : Policy}
    (fresh : (s.policies kind).get? policy.normalized.tableKey = none)
    (unrelated : policy.normalized.Unrelated kind asked w) :
    s.SparesCandidates asked w (.put (.policies kind) policy) := by
  by_cases same : kind = asked
  · subst same
    constructor
    · intro key other puts
      rw [writes_put, List.mem_singleton] at puts
      obtain ⟨-, rfl⟩ := Write.put.inj puts
      exact unrelated.not_concerns
    · intro write member other stands
      rw [writes_put, List.mem_singleton] at member
      subst member
      exact absurd (stands.symm.trans fresh) (Option.some_ne_none other)
  · refine sparesCandidates_of_untouched (writes_put_of_ne (.policies asked) (.policies kind) policy ?_)
    exact fun shelf => same (Shelf.policies.inj shelf)

theorem sparesCandidates_delete {s : Store} {kind asked : PolicyKind} {w : Workload} {key : String}
    (unrelated : ∀ policy, (s.policies kind).get? key = some policy → policy.Unrelated kind asked w) :
    s.SparesCandidates asked w (.delete (.policies kind) key) := by
  by_cases same : kind = asked
  · subst same
    constructor
    · intro other policy puts
      rw [writes_delete, List.mem_singleton] at puts
      exact nomatch puts
    · intro write member policy stands
      rw [writes_delete, List.mem_singleton] at member
      subst member
      exact (unrelated policy stands).not_concerns
  · refine sparesCandidates_of_untouched (writes_delete_of_ne (.policies asked) (.policies kind) key ?_)
    exact fun shelf => same (Shelf.policies.inj shelf)

theorem slashFreeSpaces_perform {s : Store} {operation : StoreOperation} (slashFree : s.SlashFreeSpaces)
    (writes : WritesSlashFree [operation]) : (s.perform operation).1.SlashFreeSpaces := by
  constructor
  · intro b member
    obtain ⟨key, found⟩ := Table.mem_values.1 member
    rcases (get?_perform_iff s operation .bindings).1 found with ⟨written, last, rfl⟩ | ⟨-, stands⟩
    · exact writes.bindings key written (allWrites_singleton .bindings operation ▸ last.mem)
    · exact slashFree.bindings b (Table.mem_values.2 ⟨key, stands⟩)
  · intro kind policy member
    obtain ⟨key, found⟩ := mem_policies.1 member
    rcases (get?_perform_iff s operation (.policies kind)).1 found with ⟨_, last, rfl⟩ | ⟨-, stands⟩
    · exact writes.policies kind key policy (allWrites_singleton (.policies kind) operation ▸ last.mem)
    · exact slashFree.policies kind policy (mem_policies.2 ⟨key, stands⟩)

theorem writesSlashFree_put {kind : PolicyKind} {policy : Policy} (slashFree : SlashFree policy.normalized.spaceText) :
    WritesSlashFree [.put (.policies kind) policy] := by
  constructor
  · intro key b puts
    rw [allWrites_singleton, writes_put_of_ne .bindings (.policies kind) policy (nomatch ·)] at puts
    exact absurd puts List.not_mem_nil
  · intro asked key other puts
    rw [allWrites_singleton] at puts
    by_cases same : kind = asked
    · subst same
      rw [writes_put, List.mem_singleton] at puts
      obtain ⟨-, rfl⟩ := Write.put.inj puts
      exact slashFree
    · have apart : Shelf.policies kind ≠ .policies asked := fun shelf => same (Shelf.policies.inj shelf)
      rw [writes_put_of_ne (.policies asked) (.policies kind) policy apart] at puts
      exact absurd puts List.not_mem_nil

theorem not_put_mem_writes_delete (shelf asked : Shelf) (erased key : String) (record : asked.Record) :
    .put key record ∉ (StoreOperation.delete shelf erased).writes asked := by
  by_cases same : shelf = asked
  · subst same
    rw [writes_delete, List.mem_singleton]
    exact (nomatch ·)
  · rw [writes_delete_of_ne asked shelf erased same]
    exact List.not_mem_nil

theorem writesSlashFree_delete (shelf : Shelf) (key : String) : WritesSlashFree [.delete shelf key] := by
  constructor
  · intro other b puts
    rw [allWrites_singleton] at puts
    exact absurd puts (not_put_mem_writes_delete shelf .bindings key other b)
  · intro kind other policy puts
    rw [allWrites_singleton] at puts
    exact absurd puts (not_put_mem_writes_delete shelf (.policies kind) key other policy)

end Store

namespace Atlas
open Store StoreOperation

structure ReachesPolicies (atlas : Atlas) : Prop where
  policies : atlas.outage.policies = none
  clusterPolicies : atlas.outage.clusterPolicies = none

def withStore (atlas : Atlas) (s : Store) : Atlas := { atlas with store := s }

def after (atlas : Atlas) (operation : StoreOperation) : Atlas := atlas.withStore (atlas.store.perform operation).1

theorem governing?_eq {atlas : Atlas} (reaches : atlas.ReachesPolicies) (kind : PolicyKind) (w : Workload) :
    atlas.governing? kind w = .ok (atlas.store.governing? kind w) := by
  have whole : atlas.outage.Whole := by
    unfold Outage.Whole
    rw [reaches.policies, reaches.clusterPolicies]
  have inReach : atlas.outage.first? [.policies] = none := by
    rw [Outage.first?_cons, Outage.first?_nil, Option.or_none]
    exact congrArg (Option.map _) reaches.policies
  obtain ⟨policy?, resolved⟩ := (needs_governing? whole kind w).answers.2 inReach
  rw [resolved, governing?_ok resolved]

section Reached
variable {atlas : Atlas} {operations : List StoreOperation} {kind : PolicyKind} {w : Workload}
  (reached : atlas.store = run operations) (reaches : atlas.ReachesPolicies)
  (slashFree : (run operations).SlashFreeSpaces) (named : w.space ≠ "") (spaceFree : SlashFree w.space)

include reached reaches slashFree named spaceFree

theorem governing?_eq_some_iff {policy : Policy} :
    atlas.governing? kind w = .ok (some policy) ↔ atlas.store.FirstCandidate kind w policy := by
  rw [governing?_eq reaches, Except.ok.injEq, reached]
  exact Store.governing?_eq_some_iff slashFree kind named spaceFree

theorem governing?_eq_none_iff :
    atlas.governing? kind w = .ok none ↔ ¬ ∃ policy, atlas.store.Candidate kind w policy := by
  rw [governing?_eq reaches, Except.ok.injEq, reached]
  exact Store.governing?_eq_none_iff slashFree kind named spaceFree

/-- The governing policy depends on the candidates alone. -/
theorem governing?_withStore {others : List StoreOperation} (othersFree : (run others).SlashFreeSpaces)
    (same : ∀ policy, (run others).Candidate kind w policy ↔ (run operations).Candidate kind w policy) :
    (atlas.withStore (run others)).governing? kind w = atlas.governing? kind w := by
  have changed : (atlas.withStore (run others)).ReachesPolicies := ⟨reaches.policies, reaches.clusterPolicies⟩
  rw [governing?_eq reaches, governing?_eq changed, Except.ok.injEq, reached]
  refine Option.ext fun policy => ?_
  refine (Store.governing?_eq_some_iff othersFree kind named spaceFree).trans ?_
  rw [Store.governing?_eq_some_iff slashFree kind named spaceFree]
  simp only [FirstCandidate, same]

theorem governing?_after {operation : StoreOperation} (writesFree : WritesSlashFree [operation])
    (spares : (run operations).SparesCandidates kind w operation) :
    (atlas.after operation).governing? kind w = atlas.governing? kind w := by
  have performed : (atlas.store.perform operation).1 = run (operations ++ [operation]) := by
    rw [reached, run_append]
  have afterFree : (run (operations ++ [operation])).SlashFreeSpaces := by
    rw [run_append]
    exact slashFreeSpaces_perform slashFree writesFree
  rw [after, performed]
  refine governing?_withStore reached reaches slashFree named spaceFree afterFree fun policy => ?_
  rw [run_append]
  exact candidate_perform_iff spares policy

end Reached

/-- Which policy governs a workload, and what does not change that. -/
structure GovernsFirst (atlas : Atlas) (kind : PolicyKind) (w : Workload) : Prop where
  answers : ∃ policy?, atlas.governing? kind w = .ok policy?
  found : ∀ policy, atlas.governing? kind w = .ok (some policy) ↔ atlas.store.FirstCandidate kind w policy
  absent : atlas.governing? kind w = .ok none ↔ ¬ ∃ policy, atlas.store.Candidate kind w policy
  anyOrder : ∀ others, (run others).SlashFreeSpaces →
    (∀ policy, policy ∈ ((run others).policies kind).values ↔ policy ∈ (atlas.store.policies kind).values) →
      (atlas.withStore (run others)).governing? kind w = atlas.governing? kind w
  afterPut : ∀ (other : PolicyKind) (policy : Policy), SlashFree policy.normalized.spaceText →
    (atlas.store.policies other).get? policy.normalized.tableKey = none →
      policy.normalized.Unrelated other kind w →
        (atlas.after (.put (.policies other) policy)).governing? kind w = atlas.governing? kind w
  afterDelete : ∀ (other : PolicyKind) (key : String),
    (∀ policy, (atlas.store.policies other).get? key = some policy → policy.Unrelated other kind w) →
      (atlas.after (.delete (.policies other) key)).governing? kind w = atlas.governing? kind w

/-- After every run that leaves no namespace with a slash, the governing policy of a workload is the stored policy that
fits it, is of its namespace or of none, and comes first of those, with the namespace before the cluster scope and
names by their bytes; there is none just if no such policy is stored. -/
theorem governing_policy_comes_first (atlas : Atlas) (operations : List StoreOperation)
    (reached : atlas.store = run operations) (reaches : atlas.ReachesPolicies)
    (slashFree : (run operations).SlashFreeSpaces) (kind : PolicyKind) (w : Workload) (named : w.space ≠ "")
    (spaceFree : SlashFree w.space) : atlas.GovernsFirst kind w where
  answers := ⟨_, governing?_eq reaches kind w⟩
  found _ := governing?_eq_some_iff reached reaches slashFree named spaceFree
  absent := governing?_eq_none_iff reached reaches slashFree named spaceFree
  anyOrder others othersFree same := by
    rw [reached] at same
    exact governing?_withStore reached reaches slashFree named spaceFree othersFree fun policy =>
      and_congr_left' (same policy)
  afterPut other policy policyFree fresh unrelated := by
    rw [reached] at fresh
    exact governing?_after reached reaches slashFree named spaceFree (writesSlashFree_put policyFree)
      (sparesCandidates_put fresh unrelated)
  afterDelete other key unrelated := by
    rw [reached] at unrelated
    exact governing?_after reached reaches slashFree named spaceFree (writesSlashFree_delete (.policies other) key)
      (sparesCandidates_delete unrelated)

def deploymentsOf (name : String) (space : Option String) : Policy :=
  ⟨name, space, [⟨"", "Deployment", "", ""⟩], .unrestricted⟩

def shadowing : List StoreOperation :=
  [.put (.policies .propagation) (deploymentsOf "all" none),
    .put (.policies .propagation) (deploymentsOf "web" (some "team"))]

theorem shadowing_slashFree : WritesSlashFree shadowing where
  bindings key b puts := by
    change _ ∈ [] at puts
    exact absurd puts List.not_mem_nil
  policies kind key policy puts := by
    cases kind with
    | propagation =>
      change _ ∈ [Write.put _ _, Write.put _ _] at puts
      simp only [List.mem_cons, List.not_mem_nil, or_false, Write.put.injEq] at puts
      rcases puts with ⟨-, rfl⟩ | ⟨-, rfl⟩ <;> decide
    | override =>
      change _ ∈ [] at puts
      exact absurd puts List.not_mem_nil

/-- A policy of the namespace governs before a cluster-scoped one of a smaller name, and a policy of another namespace
does not matter. -/
theorem governing_policy_comes_first_shadowing :
    let atlas := Atlas.empty.withStore (run shadowing)
    let w : Workload := ⟨"team", "nginx", "Deployment", "apps/v1"⟩
    let stranger := deploymentsOf "a" (some "ops")
    (run shadowing).SlashFreeSpaces ∧ w.space ≠ "" ∧ SlashFree w.space ∧
      ∃ policy, policy.name = "web" ∧ atlas.store.FirstCandidate .propagation w policy ∧
        (atlas.after (.put (.policies .propagation) stranger)).governing? .propagation w = .ok (some policy) := by
  intro atlas w stranger
  have slashFree := slashFreeSpaces_run shadowing_slashFree
  have governs := governing_policy_comes_first atlas shadowing rfl ⟨rfl, rfl⟩ slashFree .propagation w
    (by decide) (by decide)
  have named : (atlas.governing? .propagation w).map (Option.map (·.name)) = .ok (some "web") := by decide +kernel
  obtain ⟨policy?, answered⟩ := governs.answers
  rw [answered] at named
  obtain ⟨policy, rfl, web⟩ := Option.map_eq_some_iff.1 (Except.ok.inj named)
  have elsewhere : stranger.normalized.Unrelated .propagation .propagation w := .inr (.inl ⟨"ops", rfl, by decide⟩)
  have kept := governs.afterPut .propagation stranger (by decide) (by rfl) elsewhere
  exact ⟨slashFree, by decide, by decide, policy, web, (governs.found policy).1 answered, kept.trans answered⟩

end Atlas

end ReplicaAtlas
