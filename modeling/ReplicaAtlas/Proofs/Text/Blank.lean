import Mathlib.Data.List.TakeWhile
import ReplicaAtlas.Text.Blank

/-!
Texts without the blanks around them and without an ending. Trimming takes off blanks and nothing else, so a text comes
out of any blanks that are put around it.
-/
namespace ReplicaAtlas.Text

theorem exists_trim (cs : List Char) : ∃ before after, cs = before ++ trim cs ++ after ∧
    (∀ c ∈ before, isBlank c = true) ∧ ∀ c ∈ after, isBlank c = true := by
  refine ⟨cs.takeWhile isBlank, ((cs.dropWhile isBlank).reverse.takeWhile isBlank).reverse, ?_, fun c member => ?_,
    fun c member => ?_⟩
  · rw [trim, List.append_assoc, ← List.reverse_append, List.takeWhile_append_dropWhile, List.reverse_reverse,
      List.takeWhile_append_dropWhile]
  · exact List.mem_takeWhile_imp member
  · exact List.mem_takeWhile_imp (List.mem_reverse.1 member)

theorem dropWhile_isBlank_append {body after : List Char} (inked : ∀ c ∈ body, isBlank c = false)
    (blank : ∀ c ∈ after, isBlank c = true) :
    (body ++ after).dropWhile isBlank = if body = [] then [] else body ++ after := by
  cases body with
  | nil => exact List.dropWhile_eq_nil_iff.2 blank
  | cons c rest =>
    have first : ¬ isBlank c = true := by simp [inked c List.mem_cons_self]
    exact List.dropWhile_cons_of_neg first

theorem trim_framed {before body after : List Char} (blank : ∀ c ∈ before, isBlank c = true)
    (inked : ∀ c ∈ body, isBlank c = false) (blankAfter : ∀ c ∈ after, isBlank c = true) :
    trim (before ++ body ++ after) = body := by
  rw [trim, List.append_assoc, List.dropWhile_append_of_pos blank, dropWhile_isBlank_append inked blankAfter]
  split
  case isTrue none => exact none.symm
  case isFalse some =>
    have inkedBack : ∀ c ∈ body.reverse, isBlank c = false := fun c member => inked c (List.mem_reverse.1 member)
    have blankBack : ∀ c ∈ after.reverse, isBlank c = true := fun c member => blankAfter c (List.mem_reverse.1 member)
    have kept : body.reverse.dropWhile isBlank = body.reverse := by
      have noneAfter : ∀ c ∈ ([] : List Char), isBlank c = true := fun c absent => absurd absent List.not_mem_nil
      have alone := dropWhile_isBlank_append inkedBack noneAfter
      simpa [some] using alone
    rw [List.reverse_append, List.dropWhile_append_of_pos blankBack, kept, List.reverse_reverse]

theorem dropEnding?_eq_some_iff {ending cs rest : List Char} :
    dropEnding? ending cs = some rest ↔ cs = rest ++ ending := by
  rw [dropEnding?]
  split
  case isTrue ends =>
    obtain ⟨start, rfl⟩ := List.isSuffixOf_iff_suffix.1 ends
    simp
  case isFalse elsewhere =>
    refine iff_of_false nofun ?_
    rintro rfl
    exact elsewhere (List.isSuffixOf_iff_suffix.2 (List.suffix_append rest ending))

end ReplicaAtlas.Text
