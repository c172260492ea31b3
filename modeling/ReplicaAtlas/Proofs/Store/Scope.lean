import ReplicaAtlas.Proofs.Store.Run
import ReplicaAtlas.Proofs.Text.ByteOrder

/-!
Listings by namespace. A key is a namespace, a slash and a name, so as long as namespaces have no slash the
first slash of a key ends the namespace, and a listing that goes by the beginning of keys finds the records of
a namespace and no others. Policies without a namespace are those whose keys start with the slash.
-/
namespace ReplicaAtlas.Store
open StoreOperation

def SlashFree (text : String) : Prop := '/' ∉ text.toList

instance : DecidablePred SlashFree := fun text => inferInstanceAs (Decidable ('/' ∉ text.toList))

private theorem prefix_slash_iff {space owner rest : List Char} (spaceFree : '/' ∉ space)
    (ownerFree : '/' ∉ owner) : space ++ ['/'] <+: owner ++ '/' :: rest ↔ owner = space := by
  induction space generalizing owner with
  | nil =>
    cases owner with
    | nil => simp
    | cons c cs =>
      have apart : '/' ≠ c := fun same => ownerFree (same ▸ List.mem_cons_self)
      simp [apart]
  | cons d ds ih =>
    have apartD : d ≠ '/' := fun same => spaceFree (same ▸ List.mem_cons_self)
    have dsFree : '/' ∉ ds := fun member => spaceFree (List.mem_cons_of_mem d member)
    cases owner with
    | nil => simp [apartD]
    | cons c cs =>
      have csFree : '/' ∉ cs := fun member => ownerFree (List.mem_cons_of_mem c member)
      rw [List.cons_append, List.cons_append, List.cons_prefix_cons, ih dsFree csFree, List.cons.injEq, eq_comm]

theorem toList_slash (left right : String) :
    (left ++ "/" ++ right).toList = left.toList ++ '/' :: right.toList := by
  simp [String.toList_append]

theorem isWithin_own (space name : String) : isWithin space (space ++ "/" ++ name) = true := by
  rw [isWithin, toList_slash, List.isPrefixOf_iff_prefix]
  exact ⟨name.toList, List.append_assoc _ _ _⟩

theorem isWithin_iff {space owner : String} (name : String) (spaceFree : SlashFree space)
    (ownerFree : SlashFree owner) : isWithin space (owner ++ "/" ++ name) = true ↔ owner = space := by
  rw [isWithin, toList_slash, List.isPrefixOf_iff_prefix, prefix_slash_iff spaceFree ownerFree, String.toList_inj]

private theorem tail_lt_of_append_lt {p s t : List Char} (less : p ++ s < p ++ t) : s < t := by
  induction p with
  | nil => exact less
  | cons c cs ih =>
    rcases List.cons_lt_cons_iff.1 less with smaller | ⟨-, tails⟩
    · exact absurd smaller (Char.lt_irrefl c)
    · exact ih tails

/-- Under one namespace names are in the order of keys. -/
theorem name_lt_of_key_lt {space a b : String} (less : space ++ "/" ++ a < space ++ "/" ++ b) : a < b := by
  have lists : (space ++ "/" ++ a).toList < (space ++ "/" ++ b).toList := less
  rw [String.toList_append (s := space ++ "/"), String.toList_append (s := space ++ "/")] at lists
  exact tail_lt_of_append_lt lists

theorem slashFree_empty : SlashFree "" := List.not_mem_nil

theorem spaceText_eq_iff {policy : Policy} {space : String} (named : space ≠ "") :
    policy.spaceText = space ↔ policy.space = some space := by
  rw [Policy.spaceText]
  cases policy.space with
  | none => simpa using named.symm
  | some owner => simp

theorem spaceText_eq_empty_iff {policy : Policy} (spaced : policy.space ≠ some "") :
    policy.spaceText = "" ↔ policy.space = none := by
  rw [Policy.spaceText]
  cases form : policy.space with
  | none => simp
  | some owner =>
    have named : owner ≠ "" := fun same => spaced (form.trans (congrArg some same))
    simpa using named

structure SlashFreeSpaces (s : Store) : Prop where
  bindings : ∀ b ∈ s.bindings.values, SlashFree b.space
  policies : ∀ kind, ∀ policy ∈ (s.policies kind).values, SlashFree policy.spaceText

structure WritesSlashFree (operations : List StoreOperation) : Prop where
  bindings : ∀ key b, .put key b ∈ allWrites .bindings operations → SlashFree b.space
  policies : ∀ kind key policy, .put key policy ∈ allWrites (.policies kind) operations →
    SlashFree policy.spaceText

theorem slashFreeSpaces_run {operations : List StoreOperation} (slashFree : WritesSlashFree operations) :
    (run operations).SlashFreeSpaces where
  bindings b member := by
    obtain ⟨key, found⟩ := Table.mem_values.1 member
    have inTable : ((run operations).table .bindings).get? key = some b := found
    obtain ⟨written, last, same⟩ := get?_run_iff.1 inTable
    rw [same]
    exact slashFree.bindings key written last.mem
  policies kind policy member := by
    obtain ⟨key, found⟩ := Table.mem_values.1 member
    have inTable : ((run operations).table (.policies kind)).get? key = some policy := found
    obtain ⟨written, last, same⟩ := get?_run_iff.1 inTable
    rw [same]
    exact slashFree.policies kind key written last.mem

theorem valuesWhere_eq {operations : List StoreOperation} (shelf : Shelf) {test : String → Bool}
    {picks : shelf.Record → Bool}
    (agree : ∀ record ∈ ((run operations).table shelf).values, test (shelf.key record) = picks record) :
    ((run operations).table shelf).valuesWhere test = ((run operations).table shelf).values.filter picks := by
  rw [(keyed_run operations shelf).valuesWhere_eq_filter]
  exact List.filter_congr agree

theorem bindingsIn_eq_filter {operations : List StoreOperation}
    (slashFree : ∀ b ∈ (run operations).bindings.values, SlashFree b.space)
    {space : String} (named : space ≠ "") (spaceFree : SlashFree space) :
    (run operations).bindingsIn space = (run operations).bindings.values.filter fun b => b.space = space := by
  have notAll : space.isEmpty = false := by simpa using named
  rw [bindingsIn, notAll]
  refine valuesWhere_eq .bindings fun b member => Bool.eq_iff_iff.2 ?_
  rw [decide_eq_true_iff]
  exact isWithin_iff b.name spaceFree (slashFree b member)

theorem bindingsIn_eq {operations : List StoreOperation} (slashFree : (run operations).SlashFreeSpaces)
    {space : String} (named : space ≠ "") (spaceFree : SlashFree space) :
    (run operations).bindingsIn space = (run operations).bindings.values.filter fun b => b.space = space :=
  bindingsIn_eq_filter slashFree.bindings named spaceFree

theorem isWithin_policy {s : Store} (slashFree : s.SlashFreeSpaces) {kind : PolicyKind} {policy : Policy}
    (member : policy ∈ (s.policies kind).values) {space : String} (spaceFree : SlashFree space) :
    isWithin space policy.tableKey = true ↔ policy.spaceText = space :=
  isWithin_iff policy.name spaceFree (slashFree.policies kind policy member)

theorem policiesIn_eq {operations : List StoreOperation} (slashFree : (run operations).SlashFreeSpaces)
    (kind : PolicyKind) {space : String} (named : space ≠ "") (spaceFree : SlashFree space) :
    (run operations).policiesIn kind space =
      ((run operations).policies kind).values.filter fun policy => policy.space = some space := by
  refine valuesWhere_eq (.policies kind) fun policy member => Bool.eq_iff_iff.2 ?_
  have notAll : space.isEmpty = false := by simpa using named
  rw [notAll, decide_eq_true_iff, ← spaceText_eq_iff named]
  exact isWithin_policy slashFree member spaceFree

theorem spaced_of_mem {operations : List StoreOperation} {kind : PolicyKind} {policy : Policy}
    (member : policy ∈ ((run operations).policies kind).values) : policy.space ≠ some "" := by
  obtain ⟨key, found⟩ := Table.mem_values.1 member
  exact spaced_run found

theorem isClusterScopedKey_iff {operations : List StoreOperation} (slashFree : (run operations).SlashFreeSpaces)
    {kind : PolicyKind} {policy : Policy} (member : policy ∈ ((run operations).policies kind).values) :
    isClusterScopedKey policy.tableKey = true ↔ policy.space = none := by
  rw [isClusterScopedKey, isWithin_policy slashFree member slashFree_empty]
  exact spaceText_eq_empty_iff (spaced_of_mem member)

theorem clusterPolicies_eq {operations : List StoreOperation} (slashFree : (run operations).SlashFreeSpaces)
    (kind : PolicyKind) :
    (run operations).clusterPolicies kind =
      ((run operations).policies kind).values.filter fun policy => policy.space = none := by
  refine valuesWhere_eq (.policies kind) fun policy member => Bool.eq_iff_iff.2 ?_
  rw [decide_eq_true_iff]
  exact isClusterScopedKey_iff slashFree member

theorem policiesIn_empty_eq {operations : List StoreOperation} (slashFree : (run operations).SlashFreeSpaces)
    (kind : PolicyKind) :
    (run operations).policiesIn kind "" =
      ((run operations).policies kind).values.filter fun policy => policy.space ≠ none := by
  refine valuesWhere_eq (.policies kind) fun policy member => ?_
  have scope : isClusterScopedKey policy.tableKey = decide (policy.space = none) := by
    rw [Bool.eq_iff_iff, decide_eq_true_iff]
    exact isClusterScopedKey_iff slashFree member
  rw [decide_not, ← scope]
  rfl

private theorem names_ascending {α : Type} {key name : α → String} (space : String) {records : List α}
    (keys : ∀ record ∈ records, key record = space ++ "/" ++ name record)
    (ascending : records.Pairwise fun a b => key a < key b) :
    records.Pairwise fun a b => Text.Utf8.bytes (name a) < Text.Utf8.bytes (name b) := by
  refine ascending.imp_of_mem fun {a b} memberA memberB less => ?_
  rw [keys a memberA, keys b memberB] at less
  exact Text.Utf8.bytes_lt_iff.2 (name_lt_of_key_lt less)

theorem bindingsIn_names {operations : List StoreOperation} (slashFree : (run operations).SlashFreeSpaces)
    {space : String} (named : space ≠ "") (spaceFree : SlashFree space) :
    ((run operations).bindingsIn space).Pairwise
      fun a b => Text.Utf8.bytes a.name < Text.Utf8.bytes b.name := by
  have ascending : (run operations).bindings.values.Pairwise fun a b => a.tableKey < b.tableKey :=
    (keyed_run operations .bindings).values_ascending
  rw [bindingsIn_eq slashFree named spaceFree]
  refine names_ascending space (fun b member => ?_) (ascending.filter _)
  have same : b.space = space := of_decide_eq_true (List.mem_filter.1 member).2
  rw [Binding.tableKey, same]

theorem policiesIn_names {operations : List StoreOperation} (slashFree : (run operations).SlashFreeSpaces)
    (kind : PolicyKind) {space : String} (named : space ≠ "") (spaceFree : SlashFree space) :
    ((run operations).policiesIn kind space).Pairwise
      fun a b => Text.Utf8.bytes a.name < Text.Utf8.bytes b.name := by
  have ascending : ((run operations).policies kind).values.Pairwise fun a b => a.tableKey < b.tableKey :=
    (keyed_run operations (.policies kind)).values_ascending
  rw [policiesIn_eq slashFree kind named spaceFree]
  refine names_ascending space (fun policy member => ?_) (ascending.filter _)
  have same : policy.space = some space := of_decide_eq_true (List.mem_filter.1 member).2
  rw [Policy.tableKey, (spaceText_eq_iff named).2 same]

theorem clusterPolicies_names {operations : List StoreOperation} (slashFree : (run operations).SlashFreeSpaces)
    (kind : PolicyKind) :
    ((run operations).clusterPolicies kind).Pairwise
      fun a b => Text.Utf8.bytes a.name < Text.Utf8.bytes b.name := by
  have ascending : ((run operations).policies kind).values.Pairwise fun a b => a.tableKey < b.tableKey :=
    (keyed_run operations (.policies kind)).values_ascending
  rw [clusterPolicies_eq slashFree]
  refine names_ascending "" (fun policy member => ?_) (ascending.filter _)
  have same : policy.space = none := of_decide_eq_true (List.mem_filter.1 member).2
  rw [Policy.tableKey, Policy.spaceText, same, Option.getD_none]

theorem tableKey_normalized {policy : Policy} (blank : policy.space = some "") :
    policy.normalized.space = none ∧ policy.normalized.tableKey = "" ++ "/" ++ policy.name := by
  have unspaced : policy.normalized.space = none := by
    rw [Policy.normalized, blank]
    rfl
  refine ⟨unspaced, ?_⟩
  rw [Policy.tableKey, Policy.spaceText, unspaced]
  rfl

theorem mem_clusterPolicies {operations : List StoreOperation}
    (slashFree : (run operations).SlashFreeSpaces) {kind : PolicyKind} {policy : Policy}
    (blank : policy.space = some "")
    (last : Write.LastPut (allWrites (.policies kind) operations) policy.normalized.tableKey policy.normalized) :
    policy.normalized ∈ (run operations).clusterPolicies kind := by
  have found : ((run operations).table (.policies kind)).get? policy.normalized.tableKey =
      some policy.normalized := get?_run_iff.2 ⟨policy.normalized, last, rfl⟩
  rw [clusterPolicies_eq slashFree, List.mem_filter, decide_eq_true_iff]
  exact ⟨Table.mem_values.2 ⟨_, found⟩, (tableKey_normalized blank).1⟩

theorem spaceText_of_mem_policiesIn {operations : List StoreOperation}
    (slashFree : (run operations).SlashFreeSpaces) {kind : PolicyKind} {space : String}
    (spaceFree : SlashFree space) {policy : Policy} (listed : policy ∈ (run operations).policiesIn kind space) :
    policy ∈ ((run operations).policies kind).values ∧ policy.spaceText ≠ "" := by
  by_cases named : space = ""
  · subst named
    rw [policiesIn_empty_eq slashFree] at listed
    obtain ⟨member, spaced⟩ := List.mem_filter.1 listed
    refine ⟨member, fun unspaced => ?_⟩
    have none := (spaceText_eq_empty_iff (spaced_of_mem member)).1 unspaced
    simp [none] at spaced
  · rw [policiesIn_eq slashFree kind named spaceFree] at listed
    obtain ⟨member, same⟩ := List.mem_filter.1 listed
    refine ⟨member, ?_⟩
    rw [(spaceText_eq_iff named).2 (of_decide_eq_true same)]
    exact named

theorem tableKey_ne_of_mem_policiesIn {operations : List StoreOperation}
    (slashFree : (run operations).SlashFreeSpaces) {kind : PolicyKind} {space : String}
    (spaceFree : SlashFree space) {policy listed : Policy} (blank : policy.space = some "")
    (member : listed ∈ (run operations).policiesIn kind space) :
    listed.tableKey ≠ policy.normalized.tableKey := by
  obtain ⟨stored, spaced⟩ := spaceText_of_mem_policiesIn slashFree spaceFree member
  intro same
  apply spaced
  rw [← isWithin_policy slashFree stored slashFree_empty, same, (tableKey_normalized blank).2]
  exact (isWithin_iff policy.name slashFree_empty slashFree_empty).2 rfl

def Publishes (kind : PolicyKind) (policy : Policy) (operation : StoreOperation) : Prop :=
  operation = .put (.policies kind) policy ∨
    ∃ snapshot, operation = .importSnapshot snapshot ∧ policy ∈ snapshot.policies kind

theorem mem_writes_of_publishes {kind : PolicyKind} {policy : Policy} {operation : StoreOperation}
    (publishes : Publishes kind policy operation) :
    .put policy.normalized.tableKey policy.normalized ∈ operation.writes (.policies kind) := by
  rcases publishes with rfl | ⟨snapshot, rfl, member⟩
  · simp only [writes, dite_true, List.mem_singleton]
    rfl
  · exact List.mem_map.2 ⟨policy, member, rfl⟩

structure ScopedListings (operations : List StoreOperation) (s : Store) : Prop where
  bindingsIn : ∀ space, space ≠ "" → SlashFree space →
    s.bindingsIn space = s.bindings.values.filter fun b => b.space = space
  bindingNames : ∀ space, space ≠ "" → SlashFree space →
    (s.bindingsIn space).Pairwise fun a b => Text.Utf8.bytes a.name < Text.Utf8.bytes b.name
  allBindings : s.bindingsIn "" = s.bindings.values
  policiesIn : ∀ kind space, space ≠ "" → SlashFree space →
    s.policiesIn kind space = (s.policies kind).values.filter fun policy => policy.space = some space
  policyNames : ∀ kind space, space ≠ "" → SlashFree space →
    (s.policiesIn kind space).Pairwise fun a b => Text.Utf8.bytes a.name < Text.Utf8.bytes b.name
  clusterPolicies : ∀ kind,
    s.clusterPolicies kind = (s.policies kind).values.filter fun policy => policy.space = none
  namespacedPolicies : ∀ kind,
    s.policiesIn kind "" = (s.policies kind).values.filter fun policy => policy.space ≠ none
  disjoint : ∀ kind policy, policy ∈ s.clusterPolicies kind → policy ∉ s.policiesIn kind ""
  together : ∀ kind, (s.clusterPolicies kind ++ s.policiesIn kind "").Perm (s.policies kind).values
  blankWritten : ∀ operation kind policy, Publishes kind policy operation →
    .put policy.normalized.tableKey policy.normalized ∈ operation.writes (.policies kind)
  blankListed : ∀ kind (policy : Policy), policy.space = some "" →
    Write.LastPut (allWrites (.policies kind) operations) policy.normalized.tableKey policy.normalized →
      policy.normalized ∈ s.clusterPolicies kind
  blankOnlyThere : ∀ kind (policy : Policy) space, policy.space = some "" → SlashFree space →
    ∀ listed ∈ s.policiesIn kind space, listed.tableKey ≠ policy.normalized.tableKey

/-- After every run that leaves no namespace with a slash, a listing by such a namespace has just its records in
the order of their names, and every policy is listed either with the namespaced or with the cluster-scoped ones,
where policies that were published with an empty namespace are cluster-scoped. -/
theorem listings_go_by_scope (operations : List StoreOperation) (slashFree : (run operations).SlashFreeSpaces) :
    ScopedListings operations (run operations) where
  bindingsIn _ := bindingsIn_eq slashFree
  bindingNames _ := bindingsIn_names slashFree
  allBindings := rfl
  policiesIn kind _ := policiesIn_eq slashFree kind
  policyNames kind _ := policiesIn_names slashFree kind
  clusterPolicies := clusterPolicies_eq slashFree
  namespacedPolicies := policiesIn_empty_eq slashFree
  disjoint kind policy unspaced spaced := by
    rw [clusterPolicies_eq slashFree, List.mem_filter] at unspaced
    rw [policiesIn_empty_eq slashFree, List.mem_filter] at spaced
    simp [unspaced.2] at spaced
  together kind := by
    rw [clusterPolicies_eq slashFree, policiesIn_empty_eq slashFree]
    simpa only [decide_not] using List.filter_append_perm (fun policy : Policy => decide (policy.space = none)) _
  blankWritten _ _ _ := mem_writes_of_publishes
  blankListed _ _ := mem_clusterPolicies slashFree
  blankOnlyThere _ _ _ blank spaceFree _ := tableKey_ne_of_mem_policiesIn slashFree spaceFree blank

def neighbours : List StoreOperation :=
  [.put .bindings ⟨"team", "a/b", WorkloadRef.layout.blank, [], [], []⟩,
    .put .bindings ⟨"team-b", "a", WorkloadRef.layout.blank, [], [], []⟩,
    .put (.policies .propagation) ⟨"a", some "", [], .unrestricted⟩]

theorem neighbours_slashFree : WritesSlashFree neighbours where
  bindings key b puts := by
    change _ ∈ [Write.put _ _, Write.put _ _] at puts
    simp only [List.mem_cons, List.not_mem_nil, or_false, Write.put.injEq] at puts
    rcases puts with ⟨-, rfl⟩ | ⟨-, rfl⟩ <;> decide
  policies kind key policy puts := by
    cases kind with
    | propagation =>
      change _ ∈ [Write.put _ _] at puts
      obtain ⟨-, rfl⟩ := Write.put.inj (List.mem_singleton.1 puts)
      decide
    | override =>
      change _ ∈ [] at puts
      exact absurd puts List.not_mem_nil

theorem listings_go_by_scope_of_neighbours :
    (run neighbours).SlashFreeSpaces ∧
      (run neighbours).bindingsIn "team" =
        (run neighbours).bindings.values.filter (fun b => b.space = "team") ∧
      ⟨"a", none, [], .unrestricted⟩ ∈ (run neighbours).clusterPolicies .propagation := by
  have slashFree := slashFreeSpaces_run neighbours_slashFree
  have listings := listings_go_by_scope neighbours slashFree
  refine ⟨slashFree, listings.bindingsIn "team" (by decide) (by decide), ?_⟩
  exact listings.blankListed .propagation ⟨"a", some "", [], .unrestricted⟩ rfl ⟨[], [], rfl, by simp⟩

end ReplicaAtlas.Store
