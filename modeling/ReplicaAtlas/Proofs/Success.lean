/-!
When something that may fail succeeds: its steps do, one after the other.
-/
namespace ReplicaAtlas

variable {ε α β : Type}

theorem bind_ok_iff {first : Except ε α} {next : α → Except ε β} {result : β} :
    (first >>= next) = .ok result ↔ ∃ value, first = .ok value ∧ next value = .ok result := by
  cases first with
  | error fault => exact ⟨(nomatch ·), fun ⟨_, failed, _⟩ => nomatch failed⟩
  | ok value =>
    constructor
    · intro succeeds
      exact ⟨value, rfl, succeeds⟩
    · rintro ⟨_, ⟨⟩, succeeds⟩
      exact succeeds

theorem map_ok_iff {first : Except ε α} {change : α → β} {result : β} :
    first.map change = .ok result ↔ ∃ value, first = .ok value ∧ change value = result := by
  cases first with
  | error fault => exact ⟨(nomatch ·), fun ⟨_, failed, _⟩ => nomatch failed⟩
  | ok value =>
    constructor
    · intro succeeds
      exact ⟨value, rfl, Except.ok.inj succeeds⟩
    · rintro ⟨_, ⟨⟩, rfl⟩
      rfl

end ReplicaAtlas
