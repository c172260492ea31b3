import ReplicaAtlas.Proofs.Text.ByteOrder

/-!
Listings of a table whose values bear their keys. Such a listing is in the order of the keys, and picking
values by the test of a key is picking them by the test of the key that they bear.
-/
namespace ReplicaAtlas.Table
variable {α : Type} {name : α → String} {table : Table α}

theorem values_eq_valuesWhere (table : Table α) : table.values = table.valuesWhere fun _ => true := by
  rw [values, valuesWhere, List.filter_eq_self.2 fun _ _ => rfl]

theorem mem_valuesWhere {test : String → Bool} {value : α} :
    value ∈ table.valuesWhere test ↔ ∃ key, table.get? key = some value ∧ test key = true := by
  simp only [valuesWhere, List.mem_map, List.mem_filter, get?_eq_some_iff]
  constructor
  · rintro ⟨⟨key, _⟩, ⟨member, passes⟩, rfl⟩
    exact ⟨key, member, passes⟩
  · rintro ⟨key, member, passes⟩
    exact ⟨(key, value), ⟨member, passes⟩, rfl⟩

theorem mem_values {value : α} : value ∈ table.values ↔ ∃ key, table.get? key = some value := by
  rw [values_eq_valuesWhere, mem_valuesWhere]
  simp

theorem mem_keys {key : String} : key ∈ table.keys ↔ (table.get? key).isSome = true := by
  rw [keys, List.mem_map, Option.isSome_iff_exists]
  simp only [get?_eq_some_iff]
  constructor
  · rintro ⟨entry, member, rfl⟩
    exact ⟨entry.2, member⟩
  · rintro ⟨value, member⟩
    exact ⟨(key, value), member, rfl⟩

theorem keys_ascending (table : Table α) :
    table.keys.Pairwise fun a b => Text.Utf8.bytes a < Text.Utf8.bytes b :=
  List.pairwise_map.2 (table.ascending.imp Text.Utf8.bytes_lt_iff.2)

def Keyed (name : α → String) (table : Table α) : Prop :=
  ∀ key value, table.get? key = some value → name value = key

theorem Keyed.get?_iff (keyed : Keyed name table) {key : String} {value : α} :
    table.get? key = some value ↔ value ∈ table.values ∧ name value = key := by
  constructor
  · intro found
    exact ⟨mem_values.2 ⟨key, found⟩, keyed key value found⟩
  · rintro ⟨member, rfl⟩
    obtain ⟨key, found⟩ := mem_values.1 member
    rwa [keyed key value found]

theorem Keyed.name_of_mem (keyed : Keyed name table) {entry : String × α} (member : entry ∈ table.entries) :
    name entry.2 = entry.1 :=
  keyed entry.1 entry.2 ((table.get?_eq_some_iff entry.1 entry.2).2 member)

theorem Keyed.valuesWhere_ascending (keyed : Keyed name table) (test : String → Bool) :
    (table.valuesWhere test).Pairwise fun a b => name a < name b := by
  have ascending : (table.entries.filter fun e => test e.1).Pairwise fun a b => a.1 < b.1 :=
    List.Pairwise.filter _ table.ascending
  rw [valuesWhere, List.pairwise_map]
  refine ascending.imp_of_mem fun {a b} memberA memberB less => ?_
  rw [keyed.name_of_mem (List.mem_of_mem_filter memberA), keyed.name_of_mem (List.mem_of_mem_filter memberB)]
  exact less

theorem Keyed.values_ascending (keyed : Keyed name table) :
    table.values.Pairwise fun a b => name a < name b := by
  rw [values_eq_valuesWhere]
  exact keyed.valuesWhere_ascending _

theorem Keyed.valuesWhere_eq_filter (keyed : Keyed name table) (test : String → Bool) :
    table.valuesWhere test = table.values.filter fun value => test (name value) := by
  rw [valuesWhere, values, List.filter_map]
  congr 1
  refine List.filter_congr fun entry member => ?_
  rw [Function.comp_apply, keyed.name_of_mem member]

end ReplicaAtlas.Table
