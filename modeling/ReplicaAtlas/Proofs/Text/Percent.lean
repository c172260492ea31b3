import ReplicaAtlas.Text.Percent

/-!
The alphabet of percent encoding: unreserved characters and percent signs. Hexadecimal digits are unreserved.
-/
namespace ReplicaAtlas.Text.Percent
open Numeral

theorem isUnreserved_upperHexDigit : ∀ n < 16, isUnreserved (upperHexDigit n) = true := by
  decide

theorem mem_encodeByte {b : UInt8} {c : Char} (within : c ∈ encodeByte b) : isUnreserved c = true ∨ c = '%' := by
  have bound : b.toNat < 256 := b.toNat_lt
  unfold encodeByte at within
  dsimp only at within
  split at within
  case isTrue plain =>
    rw [List.mem_singleton.1 within]
    exact .inl plain
  case isFalse =>
    simp only [List.mem_cons, List.not_mem_nil, or_false] at within
    rcases within with rfl | rfl | rfl
    · exact .inr rfl
    · exact .inl (isUnreserved_upperHexDigit _ (by omega))
    · exact .inl (isUnreserved_upperHexDigit _ (by omega))

theorem mem_encode {text : String} {c : Char} (within : c ∈ encode text) : isUnreserved c = true ∨ c = '%' := by
  obtain ⟨b, -, within⟩ := List.mem_flatMap.1 within
  exact mem_encodeByte within

end ReplicaAtlas.Text.Percent
