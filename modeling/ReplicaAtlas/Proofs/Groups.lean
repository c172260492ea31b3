import Mathlib.Data.List.Count

/-!
Lists split by a key. What is picked key by key is, but for the order, what is picked by all the keys at once, and
an item that only one key brings in comes as often as that key.
-/
namespace ReplicaAtlas

section Groups
variable {Item Key : Type} [DecidableEq Key]

theorem flatMap_picked_perm {keys : List Key} (distinct : keys.Nodup) (key : Item → Key) (items : List Item) :
    (keys.flatMap fun k => items.filter (key · = k)).Perm (items.filter (key · ∈ keys)) := by
  induction keys with
  | nil => simp
  | cons first rest ih =>
    obtain ⟨absent, distinct⟩ := List.nodup_cons.1 distinct
    have here : (items.filter (key · ∈ first :: rest)).filter (key · = first) = items.filter (key · = first) := by
      rw [List.filter_filter]
      apply List.filter_congr
      intro item _
      by_cases same : key item = first
      · simp [same]
      · simp [same]
    have elsewhere : (items.filter (key · ∈ first :: rest)).filter (fun item => !decide (key item = first)) =
        items.filter (key · ∈ rest) := by
      rw [List.filter_filter]
      apply List.filter_congr
      intro item _
      by_cases same : key item = first
      · simp [same, absent]
      · simp [same]
    have parts := List.filter_append_perm (fun item => decide (key item = first))
      (items.filter (key · ∈ first :: rest))
    rw [here, elsewhere] at parts
    rw [List.flatMap_cons]
    exact ((ih distinct).append_left _).trans parts

theorem count_flatMap_of_key [DecidableEq Item] (brings : Key → List Item) {item : Item} {key : Key}
    (apart : ∀ other, other ≠ key → item ∉ brings other) (keys : List Key) :
    (keys.flatMap brings).count item = keys.count key * (brings key).count item := by
  induction keys with
  | nil => simp
  | cons first rest ih =>
    rw [List.flatMap_cons, List.count_append, ih]
    by_cases same : first = key
    · subst same
      rw [List.count_cons_self, Nat.succ_mul, Nat.add_comm]
    · rw [List.count_eq_zero.2 (apart first same), List.count_cons_of_ne same, Nat.zero_add]

end Groups

end ReplicaAtlas
