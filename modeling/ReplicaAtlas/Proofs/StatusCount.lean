import ReplicaAtlas.Proofs.Number.Words
import ReplicaAtlas.StatusCount

/-!
What is counted of a status report. A member tells a count just where its exact value is a 32-bit word, however it is
written. The fields are tried in turn until one of them tells a count, and a member that tells none is no better than a
missing one.
-/
namespace ReplicaAtlas

namespace Number

def value? : Number → Option ℚ
  | .int n => some n
  | .float x => Binary64.value? x

theorem word?_eq_some_iff (number : Number) (c : UInt32) :
    number.word? = some c ↔ number.value? = some (c.toNat : ℚ) := by
  rcases number with (n | n) | x
  case int.ofNat =>
    have value : (Number.int (.ofNat n)).value? = some (n : ℚ) := rfl
    have few := c.toNat_lt
    rw [value, Option.some_inj, Nat.cast_inj, word?, natural?, Option.ite_none_right_eq_some, Option.some_inj]
    constructor
    · rintro ⟨fits, rfl⟩
      exact (Nat.mod_eq_of_lt (Nat.lt_succ_of_le fits)).symm
    · rintro rfl
      exact ⟨Nat.le_of_lt_succ few, UInt32.ofNat_toNat⟩
  case int.negSucc =>
    have below : ¬ 0.0 ≤ Float.ofInt (.negSucc n) := Binary64.not_zero_le_ofInt (Int.negSucc_lt_zero n)
    have less : (((Int.negSucc n : ℤ) : ℚ)) < 0 := Int.cast_lt_zero.2 (Int.negSucc_lt_zero n)
    have unread : (Number.int (.negSucc n)).word? = none := by
      simp only [word?, natural?, toFloat, Binary64.word?, below, decide_false, Bool.false_and, Bool.false_eq_true,
        if_false]
    rw [unread]
    refine iff_of_false (Option.some_ne_none c).symm fun same => ?_
    have equal : ((Int.negSucc n : ℤ) : ℚ) = c.toNat := Option.some.inj same
    exact absurd (equal ▸ less) (not_lt.2 (Nat.cast_nonneg _))
  case float => exact Binary64.word?_eq_some_iff x c

theorem word?_congr {a b : Number} (same : a.value? = b.value?) : a.word? = b.word? := by
  ext c
  rw [word?_eq_some_iff, word?_eq_some_iff, same]

theorem value?_toFloat {n : ℕ} (bounded : n ≤ 2 ^ 53) :
    (Number.float n.toUInt64.toFloat).value? = (Number.int n).value? := by
  have word : n.toUInt64.toNat = n := Nat.mod_eq_of_lt (by omega)
  have value := Binary64.value?_toFloat n.toUInt64 (by omega)
  rw [word] at value
  exact value

end Number

theorem Entries.find?_filter {α : Type} (keep : String → Bool) (name : String) (entries : List (String × α)) :
    find? name (entries.filter fun e => keep e.1) = if keep name then find? name entries else none := by
  induction entries with
  | nil => exact (ite_self none).symm
  | cons head rest ih =>
    obtain ⟨k, v⟩ := head
    by_cases same : name = k
    · subst same
      cases kept : keep name <;> simp_all [find?]
    · cases kept : keep k <;> simp_all [find?]

namespace Json

def keeping (keep : String → Bool) : Json → Json
  | .object members => .object (members.filter fun e => keep e.1)
  | v => v

def setting (name : String) (value : Json) : Json → Json
  | .object members => .object (Entries.put name value members)
  | v => v

theorem member?_keeping (keep : String → Bool) (name : String) (v : Json) :
    (v.keeping keep).member? name = if keep name then v.member? name else none := by
  cases v with
  | object members => exact Entries.find?_filter keep name members
  | _ => exact (ite_self none).symm

end Json

namespace StatusCount

/-- The payload is an object whose member of that name is a number, and its value is the count. -/
def Tells (payload : Option Json) (name : String) (c : UInt32) : Prop :=
  ∃ n, payload.bind (Json.member? name) = some (.number n) ∧ n.value? = some (c.toNat : ℚ)

def SameCounts (payload other : Option Json) : Prop :=
  (∀ name, field payload name = field other name) ∧ replicas payload = replicas other

structure CountsExactly (payload : Option Json) : Prop where
  told : ∀ name c, Tells payload name c → field payload name = c
  untold : ∀ name, (∀ c, ¬ Tells payload name c) → field payload name = 0
  ready : ∀ c, Tells payload "readyReplicas" c → replicas payload = c
  available : ∀ c, (∀ d, ¬ Tells payload "readyReplicas" d) → Tells payload "availableReplicas" c →
    replicas payload = c
  neither : (∀ d, ¬ Tells payload "readyReplicas" d) → (∀ d, ¬ Tells payload "availableReplicas" d) →
    replicas payload = 0
  missing : ∀ name, (∀ c, ¬ Tells payload name c) → SameCounts (payload.map (.keeping (· ≠ name))) payload
  others : ∀ keep, (∀ name, keep name → field (payload.map (.keeping keep)) name = field payload name) ∧
    ((∀ name ∈ replicaFields, keep name) → replicas (payload.map (.keeping keep)) = replicas payload)
  written : ∀ name (n : ℕ), n ≤ 2 ^ 53 → SameCounts (payload.map (.setting name (.number (.int n))))
    (payload.map (.setting name (.number (.float n.toUInt64.toFloat))))

theorem read?_eq_some_iff (payload : Option Json) (name : String) (c : UInt32) :
    read? payload name = some c ↔ Tells payload name c := by
  unfold read? Tells
  split
  case h_1 n found => simp [found, Number.word?_eq_some_iff]
  case h_2 unfound =>
    refine iff_of_false (Option.some_ne_none c).symm ?_
    rintro ⟨n, found, -⟩
    exact unfound n found

theorem read?_eq_none_iff (payload : Option Json) (name : String) :
    read? payload name = none ↔ ∀ c, ¬ Tells payload name c := by
  simp only [Option.eq_none_iff_forall_ne_some, Ne, read?_eq_some_iff]

theorem replicas_eq (payload : Option Json) :
    replicas payload = ((read? payload "readyReplicas").or (read? payload "availableReplicas")).getD 0 := by
  simp only [replicas, replicaFields, List.findSome?]
  cases read? payload "readyReplicas" <;> cases read? payload "availableReplicas" <;> rfl

theorem sameCounts_of_read? {payload other : Option Json} (same : ∀ name, read? payload name = read? other name) :
    SameCounts payload other := by
  refine ⟨fun name => ?_, ?_⟩
  · rw [field, field, same]
  · rw [replicas_eq, replicas_eq, same, same]

theorem read?_keeping (payload : Option Json) (keep : String → Bool) (name : String) :
    read? (payload.map (.keeping keep)) name = if keep name then read? payload name else none := by
  have member : (payload.map (.keeping keep)).bind (Json.member? name) =
      if keep name then payload.bind (Json.member? name) else none := by
    cases payload with
    | none => exact (ite_self none).symm
    | some v => exact v.member?_keeping keep name
  rw [read?, member]
  split_ifs <;> rfl

theorem read?_setting (members : List (String × Json)) (name other : String) (n : Number) :
    read? (some (.setting name (.number n) (.object members))) other =
      if other = name then n.word? else read? (some (.object members)) other := by
  have member : (some (Json.setting name (.number n) (.object members))).bind (Json.member? other) =
      if other = name then some (.number n) else Entries.find? other members := Entries.find?_put ..
  rw [read?, member]
  split_ifs <;> rfl

theorem sameCounts_setting (payload : Option Json) (name : String) {a b : Number} (same : a.value? = b.value?) :
    SameCounts (payload.map (.setting name (.number a))) (payload.map (.setting name (.number b))) := by
  apply sameCounts_of_read?
  intro other
  match payload with
  | some (.object members) =>
    rw [Option.map_some, Option.map_some, read?_setting, read?_setting, Number.word?_congr same]
  | none | some .null | some (.bool _) | some (.number _) | some (.text _) | some (.array _) => rfl

theorem counts_are_exact_values (payload : Option Json) : CountsExactly payload := by
  constructor
  case told =>
    intro name c tells
    rw [field, (read?_eq_some_iff payload name c).2 tells]
    rfl
  case untold =>
    intro name silent
    rw [field, (read?_eq_none_iff payload name).2 silent]
    rfl
  case ready =>
    intro c tells
    rw [replicas_eq, (read?_eq_some_iff ..).2 tells]
    rfl
  case available =>
    intro c silent tells
    rw [replicas_eq, (read?_eq_none_iff ..).2 silent, (read?_eq_some_iff ..).2 tells]
    rfl
  case neither =>
    intro silent silentToo
    rw [replicas_eq, (read?_eq_none_iff ..).2 silent, (read?_eq_none_iff ..).2 silentToo]
    rfl
  case missing =>
    intro name silent
    apply sameCounts_of_read?
    intro other
    rw [read?_keeping]
    split_ifs with kept
    · rfl
    · rw [of_not_not (mt decide_eq_true kept), (read?_eq_none_iff ..).2 silent]
  case others =>
    intro keep
    have unchanged (name : String) (kept : keep name) :
        read? (payload.map (.keeping keep)) name = read? payload name := by
      rw [read?_keeping, if_pos kept]
    refine ⟨fun name kept => ?_, fun kept => ?_⟩
    · rw [field, field, unchanged name kept]
    · rw [replicas_eq, replicas_eq, unchanged _ (kept _ (by decide)), unchanged _ (kept _ (by decide))]
  case written =>
    intro name n bounded
    exact sameCounts_setting payload name (Number.value?_toFloat bounded).symm

/-- The first number does not fit a word. -/
example : replicas (some (.object [("availableReplicas", .float 3.0), ("readyReplicas", .nat 4294967296)])) = 3 := by
  decide +kernel

end StatusCount

end ReplicaAtlas
