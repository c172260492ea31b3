import ReplicaAtlas.Proofs.Atlas.Reading
import ReplicaAtlas.Proofs.Distribution.Parts
import ReplicaAtlas.Proofs.Store.Scope

/-!
Distributions by namespace as an atlas answers with them. The store picks the bindings of a namespace by the
beginning of their keys, while the distribution of all bindings goes by the namespace that each of them names.
As long as namespaces have no slash both tell the same of a namespace, and all that the namespaces tell, with
the bindings without one, adds up to what is told of all bindings.
-/
namespace ReplicaAtlas.Atlas
open Store (SlashFree)

theorem distribution_ok {atlas : Atlas} (reached : atlas.outage.bindings = none) (space : String) :
    atlas.distribution space = .ok (.ofBindings (atlas.store.bindingsIn space)) :=
  bind_ok_iff.2 ⟨_, reach_ok_iff.2 ⟨reached, rfl⟩, rfl⟩

/-- The bindings are told of as a whole and by namespace, and both agree. No query asks for the bindings without a
namespace alone, but their part counts like the others. -/
structure AddsUpBySpace (atlas : Atlas) (bindings : List Binding) : Prop where
  whole : atlas.distribution "" = .ok (.ofBindings bindings)
  part : ∀ space, space ≠ "" → SlashFree space → atlas.distribution space = .ok (.ofSpace bindings space)
  rows : ∀ space, Distribution.RowOf (.ofBindings bindings) space (.ofSpace bindings space)
  sums : ∀ spaces : List String, spaces.Nodup → (∀ b ∈ bindings, b.space ∈ spaces) →
    Distribution.AddsUp (spaces.map (.ofSpace bindings)) (.ofBindings bindings)
  words : bindings.length < 4294967296 → (bindings.flatMap (·.targets)).length < 4294967296 →
    Distribution.checkedOfBindings bindings = .ok (.ofBindings bindings) ∧
      ∀ space, Distribution.checkedOfBindings (Distribution.inSpace space bindings) = .ok (.ofSpace bindings space)

/-- After every run that leaves no binding in a namespace with a slash, the distribution of a namespace is the row of
that namespace in the distribution of all bindings, which is the sum of those of its parts. -/
theorem distributions_add_up_by_space (operations : List StoreOperation) (atlas : Atlas)
    (stored : atlas.store = Store.run operations) (reached : atlas.outage.bindings = none)
    (slashFree : ∀ b ∈ (Store.run operations).bindings.values, SlashFree b.space) :
    atlas.AddsUpBySpace (Store.run operations).bindings.values where
  whole := by
    rw [distribution_ok reached, stored]
    rfl
  part space named spaceFree := by
    rw [distribution_ok reached, stored, Store.bindingsIn_eq_filter slashFree named spaceFree]
    rfl
  rows := Distribution.rowOf_ofSpace _
  sums _ distinct covers := Distribution.addsUp_spaces distinct covers
  words few fewTargets :=
    ⟨Distribution.checkedOfBindings_ok few fewTargets, Distribution.checkedOfSpace_ok few fewTargets⟩

/-- Keys put the bindings of `team-b` before those of `team`, while rows have the two names the other way. -/
def interleaved : List StoreOperation :=
  [.put .bindings ⟨"team", "web", WorkloadRef.layout.blank, [⟨"west", 4294967295⟩], [], []⟩,
    .put .bindings ⟨"team-b", "web", WorkloadRef.layout.blank, [⟨"west", 1⟩, ⟨"east", 2⟩],
      [⟨"east", some (.object [("readyReplicas", .number (.int 2))])⟩], []⟩,
    .put .bindings ⟨"", "web", WorkloadRef.layout.blank, [⟨"east", 1⟩], [], []⟩]

theorem distributions_add_up_by_space_interleaved :
    (∀ b ∈ (Store.run interleaved).bindings.values, SlashFree b.space) ∧
      AddsUpBySpace { empty with store := Store.run interleaved } (Store.run interleaved).bindings.values ∧
      Distribution.AddsUp (["", "team", "team-b"].map (.ofSpace (Store.run interleaved).bindings.values))
        (.ofBindings (Store.run interleaved).bindings.values) := by
  have slashFree : ∀ b ∈ (Store.run interleaved).bindings.values, SlashFree b.space := by decide +kernel
  have agree := distributions_add_up_by_space interleaved { empty with store := Store.run interleaved } rfl rfl slashFree
  exact ⟨slashFree, agree, agree.sums _ (by decide) (by decide +kernel)⟩

end ReplicaAtlas.Atlas
