import ReplicaAtlas.Distribution
import ReplicaAtlas.Number.Word

/-!
Distributions on machine words. Workloads are counted in words of 32 bits, and a count that would leave its
word is refused. Sums of replicas stop at the largest word, so that they never leave theirs.
-/
namespace ReplicaAtlas

def Word.next (count : Nat) : Checked Nat := do
  let word ← Word.ofNat (count + 1)
  return word.toNat

theorem Word.next_ok {count : Nat} (fits : count + 1 < 4294967296) : Word.next count = .ok (count + 1) := by
  rw [Word.next, Word.ofNat_ok fits]
  exact congrArg Except.ok (Word.toNat_toUInt32 fits)

def Tally.checkedAddWorkload (t : Tally) : Checked Tally := do
  let workloads ← Word.next t.workloads
  return { t with workloads := workloads }

theorem Tally.checkedAddWorkload_ok {t : Tally} (fits : t.workloads + 1 < 4294967296) :
    t.checkedAddWorkload = .ok t.addWorkload := by
  rw [checkedAddWorkload, Word.next_ok fits]
  rfl

namespace Distribution

def checkedUpdate (rows : Table Tally) (name : String) (change : Tally → Checked Tally) :
    Checked (Table Tally) := do
  let row ← change ((rows.get? name).getD .zero)
  return rows.insert name row

def checkedAddTarget (b : Binding) (d : Distribution) (target : Target) : Checked Distribution := do
  let ready := b.actualReplicas target.cluster
  let clusters ← checkedUpdate d.clusters target.cluster fun row => do
    let row ← row.checkedAddWorkload
    return row.addReplicas target.replicas ready
  return { d with
    totals := d.totals.addReplicas target.replicas ready
    clusters := clusters
    spaces := update d.spaces b.space (·.addReplicas target.replicas ready) }

def checkedCountPhase (d : Distribution) : Phase → Checked Distribution
  | .scheduled => do
    let count ← Word.next d.scheduled
    return { d with scheduled := count }
  | .pending => do
    let count ← Word.next d.pending
    return { d with pending := count }
  | .failed => do
    let count ← Word.next d.failed
    return { d with failed := count }

def checkedEnter (d : Distribution) (b : Binding) : Checked Distribution := do
  let totals ← d.totals.checkedAddWorkload
  let counted ← d.checkedCountPhase b.phase
  let spaces ← checkedUpdate d.spaces b.space (·.checkedAddWorkload)
  return { counted with totals := totals, spaces := spaces }

def checkedAddBinding (d : Distribution) (b : Binding) : Checked Distribution := do
  let entered ← checkedEnter d b
  b.targets.foldlM (checkedAddTarget b) entered

def checkedOfBindings (bindings : List Binding) : Checked Distribution := bindings.foldlM checkedAddBinding empty

end Distribution

end ReplicaAtlas
