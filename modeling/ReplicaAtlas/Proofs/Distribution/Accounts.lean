import ReplicaAtlas.Distribution.Checked
import ReplicaAtlas.Proofs.Binding.Replicas
import ReplicaAtlas.Proofs.Table.LastWrite

/-!
What a distribution accounts for: every binding once, with its phase and its namespace, and every target once,
with the replicas planned for its cluster and those its cluster told of. The sums stop at the largest word but
are exact below it, and since only sums and counts enter, the order of the bindings does not.
-/
namespace ReplicaAtlas

/-- What one target adds: replicas that are planned for a cluster and replicas that are ready there. -/
structure Share where
  space : String
  cluster : String
  planned : UInt32
  ready : UInt32

namespace Binding

/-- The ready replicas are those of the first report about the cluster. -/
def share (b : Binding) (target : Target) : Share where
  space := b.space
  cluster := target.cluster
  planned := target.replicas
  ready := StatusCount.replicas ((b.reports.find? (·.cluster = target.cluster)).bind (·.payload))

def shares (b : Binding) : List Share := b.targets.map b.share

end Binding

namespace Share

def inCluster (name : String) (shares : List Share) : List Share := shares.filter (·.cluster = name)

def inSpace (name : String) (shares : List Share) : List Share := shares.filter (·.space = name)

def plannedTotal (shares : List Share) : Nat := Replicas.total (shares.map (·.planned))

def readyTotal (shares : List Share) : Nat := Replicas.total (shares.map (·.ready))

theorem plannedTotal_append (shares more : List Share) :
    plannedTotal (shares ++ more) = plannedTotal shares + plannedTotal more := by
  rw [plannedTotal, List.map_append, Replicas.total_append]
  rfl

theorem readyTotal_append (shares more : List Share) :
    readyTotal (shares ++ more) = readyTotal shares + readyTotal more := by
  rw [readyTotal, List.map_append, Replicas.total_append]
  rfl

end Share

namespace Tally

def of (workloads : Nat) (shares : List Share) : Tally where
  workloads := workloads
  planned := Replicas.capped (Share.plannedTotal shares)
  ready := Replicas.capped (Share.readyTotal shares)

def row? (workloads : Nat) (shares : List Share) : Option Tally :=
  if workloads = 0 then none else some (of workloads shares)

theorem of_addWorkload (workloads : Nat) (shares : List Share) :
    (of workloads shares).addWorkload = of (workloads + 1) shares := rfl

theorem of_addReplicas (workloads : Nat) (shares : List Share) (share : Share) :
    (of workloads shares).addReplicas share.planned share.ready = of workloads (shares ++ [share]) := by
  simp only [addReplicas, of, Replicas.add_capped, Share.plannedTotal_append, Share.readyTotal_append]
  rfl

theorem of_perm (workloads : Nat) {shares others : List Share} (same : shares.Perm others) :
    of workloads shares = of workloads others := by
  have planned := Replicas.total_perm (same.map (·.planned))
  have ready := Replicas.total_perm (same.map (·.ready))
  simp only [of, Share.plannedTotal, Share.readyTotal, planned, ready]

theorem row?_succ (workloads : Nat) (shares : List Share) :
    row? (workloads + 1) shares = some (of (workloads + 1) shares) :=
  if_neg (Nat.succ_ne_zero workloads)

theorem isSome_row? (workloads : Nat) (shares : List Share) :
    (row? workloads shares).isSome = true ↔ workloads ≠ 0 := by
  unfold row?
  split
  case isTrue none => simp [none]
  case isFalse some => simp [some]

theorem getD_row? {workloads : Nat} {shares : List Share} (idle : workloads = 0 → shares = []) :
    (row? workloads shares).getD zero = of workloads shares := by
  unfold row?
  split
  case isTrue none =>
    rw [none, idle none]
    rfl
  case isFalse some => rfl

theorem row?_perm (workloads : Nat) {shares others : List Share} (same : shares.Perm others) :
    row? workloads shares = row? workloads others := by
  rw [row?, row?, of_perm workloads same]

end Tally

namespace Distribution

def phaseCount (d : Distribution) : Phase → Nat
  | .scheduled => d.scheduled
  | .pending => d.pending
  | .failed => d.failed

def inSpace (name : String) (bindings : List Binding) : List Binding := bindings.filter (·.space = name)

def entered (d : Distribution) (b : Binding) : Distribution :=
  { d.countPhase b.phase with
    totals := d.totals.addWorkload
    spaces := update d.spaces b.space (·.addWorkload) }

theorem addBinding_eq (d : Distribution) (b : Binding) :
    d.addBinding b = b.targets.foldl (addTarget b) (d.entered b) := by
  unfold addBinding entered
  cases b.phase with
  | scheduled => rfl
  | pending => rfl
  | failed => rfl

theorem get?_update (rows : Table Tally) (name other : String) (change : Tally → Tally) :
    (update rows name change).get? other =
      if other = name then some (change ((rows.get? name).getD .zero)) else rows.get? other :=
  Table.get?_insert ..

/-- The bindings have been counted and so have the shares, which are shares of these bindings. -/
structure Accounts (bindings : List Binding) (shares : List Share) (d : Distribution) : Prop where
  owned : ∀ share ∈ shares, ∃ b ∈ bindings, b.space = share.space
  totals : d.totals = Tally.of bindings.length shares
  phases : ∀ phase, d.phaseCount phase = bindings.countP (·.phase = phase)
  clusters : ∀ name,
    d.clusters.get? name = Tally.row? (Share.inCluster name shares).length (Share.inCluster name shares)
  spaces : ∀ name,
    d.spaces.get? name = Tally.row? (inSpace name bindings).length (Share.inSpace name shares)

namespace Accounts
variable {bindings : List Binding} {shares : List Share} {d : Distribution}

theorem start : Accounts [] [] empty where
  owned _ member := absurd member List.not_mem_nil
  totals := rfl
  phases phase := by cases phase <;> rfl
  clusters _ := rfl
  spaces _ := rfl

theorem clusterRow (accounts : Accounts bindings shares d) (name : String) :
    (d.clusters.get? name).getD .zero = Tally.of (Share.inCluster name shares).length (Share.inCluster name shares) := by
  rw [accounts.clusters name]
  exact Tally.getD_row? List.length_eq_zero_iff.1

theorem no_shares (accounts : Accounts bindings shares d) {name : String}
    (none : (inSpace name bindings).length = 0) : Share.inSpace name shares = [] := by
  refine List.filter_eq_nil_iff.2 fun share member here => ?_
  obtain ⟨b, bound, same⟩ := accounts.owned share member
  have absent := List.filter_eq_nil_iff.1 (List.length_eq_zero_iff.1 none) b bound
  exact absent (decide_eq_true (same.trans (of_decide_eq_true here)))

theorem spaceRow (accounts : Accounts bindings shares d) (name : String) :
    (d.spaces.get? name).getD .zero = Tally.of (inSpace name bindings).length (Share.inSpace name shares) := by
  rw [accounts.spaces name]
  exact Tally.getD_row? accounts.no_shares

theorem enter (accounts : Accounts bindings shares d) (b : Binding) :
    Accounts (bindings ++ [b]) shares (d.entered b) where
  owned share member := by
    obtain ⟨owner, bound, same⟩ := accounts.owned share member
    exact ⟨owner, List.mem_append_left _ bound, same⟩
  totals := by
    change d.totals.addWorkload = _
    rw [accounts.totals, Tally.of_addWorkload, List.length_append]
    rfl
  phases phase := by
    have before := accounts.phases phase
    have counted : (d.entered b).phaseCount phase = d.phaseCount phase + if b.phase = phase then 1 else 0 := by
      unfold entered
      cases b.phase <;> cases phase <;> rfl
    rw [counted, before, List.countP_append, List.countP_singleton]
    simp
  clusters name := by
    have unchanged : (d.entered b).clusters = d.clusters := by
      unfold entered
      cases b.phase <;> rfl
    rw [unchanged]
    exact accounts.clusters name
  spaces name := by
    have grown : inSpace name (bindings ++ [b]) = inSpace name bindings ++ inSpace name [b] :=
      List.filter_append ..
    change (update d.spaces b.space (·.addWorkload)).get? name = _
    rw [get?_update, grown, List.length_append]
    by_cases here : name = b.space
    · subst here
      have one : (inSpace b.space [b]).length = 1 := by simp [inSpace]
      rw [if_pos rfl, accounts.spaceRow, Tally.of_addWorkload, one, Tally.row?_succ]
    · have none : (inSpace name [b]).length = 0 := by simp [inSpace, Ne.symm here]
      rw [if_neg here, none, Nat.add_zero]
      exact accounts.spaces name

theorem add (accounts : Accounts bindings shares d) {b : Binding} (bound : b ∈ bindings) (target : Target) :
    Accounts bindings (shares ++ [b.share target]) (addTarget b d target) where
  owned share member := by
    rcases List.mem_append.1 member with earlier | new
    · exact accounts.owned share earlier
    · rw [List.mem_singleton.1 new]
      exact ⟨b, bound, rfl⟩
  totals := by
    change d.totals.addReplicas (b.share target).planned (b.share target).ready = _
    rw [accounts.totals, Tally.of_addReplicas]
  phases := accounts.phases
  clusters name := by
    have grown : Share.inCluster name (shares ++ [b.share target]) =
        Share.inCluster name shares ++ Share.inCluster name [b.share target] := List.filter_append ..
    change (update d.clusters target.cluster fun row =>
      row.addWorkload.addReplicas (b.share target).planned (b.share target).ready).get? name = _
    rw [get?_update, grown]
    by_cases here : name = target.cluster
    · subst here
      have one : Share.inCluster target.cluster [b.share target] = [b.share target] := by
        simp [Share.inCluster, Binding.share]
      rw [if_pos rfl, accounts.clusterRow, Tally.of_addWorkload, Tally.of_addReplicas, one, List.length_append]
      exact (Tally.row?_succ ..).symm
    · have none : Share.inCluster name [b.share target] = [] := by
        simp [Share.inCluster, Binding.share, Ne.symm here]
      rw [if_neg here, none, List.append_nil]
      exact accounts.clusters name
  spaces name := by
    have grown : Share.inSpace name (shares ++ [b.share target]) =
        Share.inSpace name shares ++ Share.inSpace name [b.share target] := List.filter_append ..
    change (update d.spaces b.space (·.addReplicas (b.share target).planned (b.share target).ready)).get? name = _
    rw [get?_update, grown]
    by_cases here : name = b.space
    · subst here
      have one : Share.inSpace b.space [b.share target] = [b.share target] := by
        simp [Share.inSpace, Binding.share]
      have some : (inSpace b.space bindings).length ≠ 0 := by
        intro none
        exact List.filter_eq_nil_iff.1 (List.length_eq_zero_iff.1 none) b bound (by simp)
      rw [if_pos rfl, accounts.spaceRow, Tally.of_addReplicas, one, Tally.row?, if_neg some]
    · have none : Share.inSpace name [b.share target] = [] := by
        simp [Share.inSpace, Binding.share, Ne.symm here]
      rw [if_neg here, none, List.append_nil]
      exact accounts.spaces name

theorem addAll (accounts : Accounts bindings shares d) {b : Binding} (bound : b ∈ bindings)
    (targets : List Target) :
    Accounts bindings (shares ++ targets.map b.share) (targets.foldl (addTarget b) d) := by
  induction targets generalizing shares d with
  | nil => simpa using accounts
  | cons target targets ih =>
    have rest := ih (accounts.add bound target)
    rwa [List.append_assoc] at rest

theorem addBinding (accounts : Accounts bindings shares d) (b : Binding) :
    Accounts (bindings ++ [b]) (shares ++ b.shares) (d.addBinding b) := by
  rw [addBinding_eq]
  exact (accounts.enter b).addAll (List.mem_append_right _ List.mem_cons_self) b.targets

theorem addBindings (accounts : Accounts bindings shares d) (more : List Binding) :
    Accounts (bindings ++ more) (shares ++ more.flatMap (·.shares)) (more.foldl Distribution.addBinding d) := by
  induction more generalizing bindings shares d with
  | nil => simpa using accounts
  | cons b more ih =>
    have rest := ih (accounts.addBinding b)
    rwa [List.append_assoc, List.append_assoc] at rest

/-- A distribution is settled by what it accounts for, in whatever order. -/
theorem unique (accounts : Accounts bindings shares d) {others : List Binding} {otherShares : List Share}
    {e : Distribution} (otherAccounts : Accounts others otherShares e) (sameBindings : bindings.Perm others)
    (sameShares : shares.Perm otherShares) : d = e := by
  have totals : d.totals = e.totals := by
    rw [accounts.totals, otherAccounts.totals, sameBindings.length_eq]
    exact Tally.of_perm _ sameShares
  have phases (phase : Phase) : d.phaseCount phase = e.phaseCount phase := by
    rw [accounts.phases, otherAccounts.phases]
    exact sameBindings.countP_eq _
  have clusters : d.clusters = e.clusters := by
    refine Table.ext_get? fun name => ?_
    have same : (Share.inCluster name shares).Perm (Share.inCluster name otherShares) := sameShares.filter _
    rw [accounts.clusters, otherAccounts.clusters, same.length_eq]
    exact Tally.row?_perm _ same
  have spaces : d.spaces = e.spaces := by
    refine Table.ext_get? fun name => ?_
    have same : (inSpace name bindings).Perm (inSpace name others) := sameBindings.filter _
    rw [accounts.spaces, otherAccounts.spaces, same.length_eq]
    exact Tally.row?_perm _ (sameShares.filter _)
  have scheduled := phases .scheduled
  have pending := phases .pending
  have failed := phases .failed
  cases d
  cases e
  simp only [phaseCount] at scheduled pending failed totals clusters spaces
  rw [totals, scheduled, pending, failed, clusters, spaces]

end Accounts

def sharesOf (bindings : List Binding) : List Share := bindings.flatMap (·.shares)

theorem accounts_ofBindings (bindings : List Binding) :
    Accounts bindings (sharesOf bindings) (ofBindings bindings) :=
  Accounts.start.addBindings bindings

theorem ofBindings_perm {bindings others : List Binding} (same : bindings.Perm others) :
    ofBindings bindings = ofBindings others :=
  (accounts_ofBindings bindings).unique (accounts_ofBindings others) same (same.flatMap_right _)

end Distribution

end ReplicaAtlas
