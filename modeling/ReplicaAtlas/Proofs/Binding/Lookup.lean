import ReplicaAtlas.Binding.Lookup
import ReplicaAtlas.Proofs.Store.Scope
import ReplicaAtlas.Proofs.Table.First

/-!
Looking up the binding of a workload. A workload's namespace sees the bindings whose keys begin with it, which with
slashes in namespaces may be those of other namespaces too, and a binding is for the workload that its resource names.
As long as bindings are published in the namespace of their resource, every binding for a workload is seen from the
workload's namespace, and what else is seen there is for other workloads.
-/
namespace ReplicaAtlas

namespace Binding

theorem governs_iff (b : Binding) (w : Workload) :
    b.governs w = true ↔ w.kind = b.resource.kind ∧ w.space = b.resource.space ∧ w.name = b.resource.name := by
  simp only [governs, WorkloadRef.isFor, Workload.isObject, Bool.and_eq_true, beq_iff_eq, and_assoc]

def IsFor (b : Binding) (w : Workload) : Prop :=
  b.resource.kind = w.kind ∧ b.resource.space = w.space ∧ b.resource.name = w.name

instance (b : Binding) (w : Workload) : Decidable (b.IsFor w) := instDecidableAnd

theorem governs_eq_isFor (b : Binding) (w : Workload) : b.governs w = decide (b.IsFor w) := by
  rw [Bool.eq_iff_iff, governs_iff, decide_eq_true_iff, IsFor]
  simp only [eq_comm]

end Binding

namespace Store

/-- The binding stands under the key, where the workload's namespace sees it, and governs the workload. -/
structure Binds (s : Store) (w : Workload) (key : String) (b : Binding) : Prop where
  stands : s.bindings.get? key = some b
  visible : w.space = "" ∨ isWithin w.space key = true
  governs : b.governs w = true

def FirstBinding (s : Store) (w : Workload) (b : Binding) : Prop :=
  ∃ key, s.Binds w key b ∧ ∀ other found, s.Binds w other found → ¬ other < key

def binding? (s : Store) (w : Workload) : Option Binding := (s.bindingsIn w.space).find? (·.governs w)

def bindingCount (s : Store) (w : Workload) : Nat := (s.bindingsIn w.space).countP (·.governs w)

theorem bindingsIn_eq_valuesWhere (s : Store) (space : String) :
    s.bindingsIn space = s.bindings.valuesWhere fun key => space.isEmpty || isWithin space key := by
  unfold bindingsIn
  cases space.isEmpty with
  | true => exact s.bindings.values_eq_valuesWhere
  | false => rfl

theorem binds_iff {s : Store} {w : Workload} {key : String} {b : Binding} :
    s.Binds w key b ↔ s.bindings.get? key = some b ∧ (w.space.isEmpty || isWithin w.space key) = true ∧
      b.governs w = true := by
  rw [Bool.or_eq_true, String.isEmpty_iff]
  exact ⟨fun binds => ⟨binds.stands, binds.visible, binds.governs⟩, fun ⟨stands, visible, governs⟩ =>
    ⟨stands, visible, governs⟩⟩

theorem binding?_eq_some_iff {s : Store} {w : Workload} {b : Binding} :
    s.binding? w = some b ↔ s.FirstBinding w b := by
  unfold binding? FirstBinding
  rw [bindingsIn_eq_valuesWhere, Table.find?_valuesWhere_eq_some_iff]
  simp only [binds_iff, and_imp]

theorem binding?_eq_none_iff {s : Store} {w : Workload} :
    s.binding? w = none ↔ ∀ key b, ¬ s.Binds w key b := by
  unfold binding?
  rw [bindingsIn_eq_valuesWhere, List.find?_eq_none]
  simp only [Table.mem_valuesWhere, binds_iff]
  constructor
  · rintro spared key b ⟨stands, visible, governs⟩
    exact spared b ⟨key, stands, visible⟩ governs
  · rintro spared b ⟨key, stands, visible⟩ governs
    exact spared key b ⟨stands, visible, governs⟩

end Store

theorem findBinding_eq_find? (bindings : List Binding) (w : Workload) :
    findBinding bindings w = (bindings.find? (·.governs w), bindings.countP (·.governs w)) := by
  rw [findBinding, List.head?_filter, List.countP_eq_length_filter]

theorem findBinding_eq (s : Store) (w : Workload) :
    findBinding (s.bindingsIn w.space) w = (s.binding? w, s.bindingCount w) :=
  findBinding_eq_find? (s.bindingsIn w.space) w

theorem lookUp_of_some {s : Store} {w : Workload} {b : Binding} (bound : s.binding? w = some b)
    (weights : Table UInt32) : lookUp (s.bindingsIn w.space) w weights =
      ⟨some b, b.placements weights, b.phaseReport, s.bindingCount w⟩ := by
  unfold lookUp
  rw [findBinding_eq, bound]

theorem lookUp_of_none {s : Store} {w : Workload} (unbound : s.binding? w = none) (weights : Table UInt32) :
    lookUp (s.bindingsIn w.space) w weights = ⟨none, [], .unbound, 0⟩ := by
  unfold lookUp
  rw [findBinding_eq, unbound]

namespace Store

def PublishedInPlace (s : Store) : Prop := ∀ b ∈ s.bindings.values, b.space = b.resource.space

variable {s : Store}

theorem isWithin_of_governs (inPlace : s.PublishedInPlace) {b : Binding} (member : b ∈ s.bindings.values)
    {w : Workload} (governs : b.governs w = true) : isWithin w.space b.tableKey = true := by
  obtain ⟨-, space, -⟩ := (b.governs_iff w).1 governs
  rw [space, ← inPlace b member]
  exact isWithin_own b.space b.name

theorem filter_governs_bindingsIn (keyed : s.bindings.Keyed Binding.tableKey) (inPlace : s.PublishedInPlace)
    (w : Workload) :
    (s.bindingsIn w.space).filter (·.governs w) = s.bindings.values.filter (·.governs w) := by
  rw [bindingsIn_eq_valuesWhere, keyed.valuesWhere_eq_filter, List.filter_filter]
  refine List.filter_congr fun b member => ?_
  cases governs : b.governs w with
  | false => rfl
  | true => rw [isWithin_of_governs inPlace member governs, Bool.or_true, Bool.and_true]

theorem findBinding_bindingsIn (keyed : s.bindings.Keyed Binding.tableKey) (inPlace : s.PublishedInPlace)
    (w : Workload) : findBinding (s.bindingsIn w.space) w = findBinding s.bindings.values w := by
  rw [findBinding, findBinding, filter_governs_bindingsIn keyed inPlace w]

/-- What is found is the binding for the workload whose key is least, with the number of all bindings for it. -/
structure FindsLeast (s : Store) (w : Workload) (found : Option Binding × Nat) : Prop where
  record : ∀ b, found.1 = some b ↔ (b ∈ s.bindings.values ∧ b.IsFor w) ∧
    ∀ other ∈ s.bindings.values, other.IsFor w → Text.Utf8.bytes b.tableKey ≤ Text.Utf8.bytes other.tableKey
  count : found.2 = s.bindings.values.countP fun b => b.IsFor w
  absent : found.2 = 0 ↔ found.1 = none

theorem findsLeast (keyed : s.bindings.Keyed Binding.tableKey) (w : Workload) :
    s.FindsLeast w (findBinding s.bindings.values w) := by
  rw [findBinding_eq_find?]
  constructor
  case record =>
    intro b
    have asymmetric (a b : Binding) (less : a.tableKey < b.tableKey) : ¬ b.tableKey < a.tableKey :=
      String.lt_asymm less
    rw [Entries.find?_eq_some_iff_first keyed.values_ascending asymmetric]
    simp only [Binding.governs_eq_isFor, decide_eq_true_iff, ← Text.Utf8.bytes_lt_iff, List.not_lt]
  case count => exact congrArg (s.bindings.values.countP ·) (funext fun b => b.governs_eq_isFor w)
  case absent => rw [List.countP_eq_zero, List.find?_eq_none]

/-- If every stored binding is in the namespace of its resource, it makes no difference for any workload whether its
binding is looked up in its own namespace or among all bindings. -/
theorem own_namespace_suffices (operations : List StoreOperation) (inPlace : (run operations).PublishedInPlace)
    (w : Workload) :
    findBinding ((run operations).bindingsIn w.space) w = findBinding ((run operations).bindingsIn "") w ∧
      (run operations).FindsLeast w (findBinding ((run operations).bindingsIn w.space) w) := by
  have keyed : (run operations).bindings.Keyed Binding.tableKey := keyed_run operations .bindings
  have same := findBinding_bindingsIn keyed inPlace w
  refine ⟨same, ?_⟩
  rw [same]
  exact findsLeast keyed w

def publishedAs (space name workload : String) : StoreOperation :=
  .put .bindings ⟨space, name, ⟨"apps/v1", "Deployment", space, workload⟩, [], [], []⟩

/-- The namespace sees the binding of another one before its own two, of which the first by key counts. -/
theorem own_namespace_suffices_beside_slashes :
    let s := run [publishedAs "a" "z" "web", publishedAs "a/b" "web" "web", publishedAs "b" "c" "web",
      publishedAs "a" "c" "web"]
    let w : Workload := ⟨"a", "web", "Deployment", "apps/v1"⟩
    s.PublishedInPlace ∧
      findBinding (s.bindingsIn w.space) w = findBinding (s.bindingsIn "") w ∧
      s.FindsLeast w (findBinding (s.bindingsIn w.space) w) ∧
      (s.bindingsIn w.space).map (·.tableKey) = ["a/b/web", "a/c", "a/z"] ∧
      (findBinding (s.bindingsIn w.space) w).1.map (·.tableKey) = some "a/c" ∧
      (findBinding (s.bindingsIn w.space) w).2 = 2 := by
  intro s w
  have inPlace : s.PublishedInPlace := by
    change ∀ b ∈ s.bindings.values, b.space = b.resource.space
    decide +kernel
  obtain ⟨same, finds⟩ := own_namespace_suffices _ inPlace w
  refine ⟨inPlace, same, finds, ?_, ?_, ?_⟩
  · decide +kernel
  · decide +kernel
  · decide +kernel

end Store

end ReplicaAtlas
