import ReplicaAtlas.Text.Scanner

/-!
What scanners read off a text that is put together from pieces. A scanner that reads a piece whatever follows it reads
it in any such text, and a repetition reads one piece after the other.
-/
namespace ReplicaAtlas.Text.Scanner
variable {α β : Type} {cs rest : List Char} {a : α}

theorem bind_of_some {first : Scanner α} {next : α → Scanner β} (reads : first cs = some (a, rest)) :
    (first >>= next) cs = next a rest := by
  change (first cs).bind _ = _
  rw [reads]
  rfl

theorem bind_of_none {first : Scanner α} {next : α → Scanner β} (fails : first cs = none) :
    (first >>= next) cs = none := by
  change (first cs).bind _ = _
  rw [fails]
  rfl

theorem either_of_some {first second : Scanner α} (reads : first cs = some (a, rest)) :
    either first second cs = some (a, rest) := by
  rw [either, reads]
  rfl

theorem either_of_none {first second : Scanner α} (fails : first cs = none) :
    either first second cs = second cs := by
  rw [either, fails]
  rfl

theorem optionally_of_none {step : Scanner α} (fails : step cs = none) : optionally step cs = some (none, cs) := by
  refine either_of_none ?_
  change (step cs).bind _ = _
  rw [fails]
  rfl

theorem before_of_some {step : Scanner α} {next : Scanner β} {last : List Char} {b : β}
    (reads : step cs = some (a, rest)) (goesOn : next rest = some (b, last)) :
    before step next cs = some (a, last) :=
  (bind_of_some reads).trans (bind_of_some goesOn)

theorem before_of_none {step : Scanner α} {next : Scanner β} (fails : step cs = none) : before step next cs = none :=
  bind_of_none fails

theorem exactly_append (word rest : List Char) : exactly word (word ++ rest) = some ((), rest) :=
  congrArg (Option.map ((), ·)) ((dropBeginning?_eq_some_iff word (word ++ rest) rest).2 rfl)

theorem exactly_eq_none {word : List Char} (other : ¬word <+: cs) : exactly word cs = none := by
  refine Option.map_eq_none_iff.2 (Option.eq_none_iff_forall_ne_some.2 ?_)
  intro rest drops
  exact other ⟨rest, ((dropBeginning?_eq_some_iff word cs rest).1 drops).symm⟩

theorem run1_append {test : Char → Bool} {word : List Char} (some : word ≠ []) (all : ∀ c ∈ word, test c = true)
    (ends : ∀ c ∈ rest.head?, test c = false) : run1 test (word ++ rest) = Option.some (word, rest) := by
  have stops : rest.takeWhile test = [] ∧ rest.dropWhile test = rest := by
    cases rest with
    | nil => exact ⟨rfl, rfl⟩
    | cons c rest =>
      have last : ¬test c = true := Bool.eq_false_iff.1 (ends c rfl)
      exact ⟨List.takeWhile_cons_of_neg last, List.dropWhile_cons_of_neg last⟩
  rw [run1, run, List.takeWhile_append_of_pos all, List.dropWhile_append_of_pos all, stops.1, stops.2, List.append_nil,
    if_neg (mt List.isEmpty_iff.1 some)]

/-- A repetition stops where its step does. -/
theorem repeated_of_none {step : Scanner α} (fails : step cs = none) : repeated step cs = some ([], cs) := by
  cases cs with
  | nil => rfl
  | cons c cs => rw [repeated, repeatFor, fails]

/-- A piece of a text that a step reads, whatever follows, and the value that it has. -/
structure IsPiece (step : Scanner α) (piece : List Char × α) : Prop where
  some : piece.1 ≠ []
  reads : ∀ rest, step (piece.1 ++ rest) = Option.some (piece.2, rest)

section Pieces
variable {step : Scanner α}

theorem repeatFor_pieces {pieces : List (List Char × α)} (isPiece : ∀ piece ∈ pieces, IsPiece step piece)
    (fails : step rest = none) {bound : List Char} (enough : pieces.length ≤ bound.length) :
    repeatFor step bound (pieces.flatMap (·.1) ++ rest) = (pieces.map (·.2), rest) := by
  induction pieces generalizing bound with
  | nil =>
    cases bound with
    | nil => rfl
    | cons c bound => rw [List.flatMap_nil, List.nil_append, repeatFor, fails]; rfl
  | cons piece pieces ih =>
    obtain ⟨here, others⟩ := List.forall_mem_cons.1 isPiece
    cases bound with
    | nil => exact absurd enough (Nat.not_succ_le_zero _)
    | cons c bound =>
      rw [List.flatMap_cons, List.append_assoc, repeatFor, here.reads]
      dsimp only
      rw [ih others (Nat.le_of_succ_le_succ enough)]
      rfl

theorem length_le_pieces {pieces : List (List Char × α)} (isPiece : ∀ piece ∈ pieces, IsPiece step piece) :
    pieces.length ≤ (pieces.flatMap (·.1)).length := by
  induction pieces with
  | nil => exact Nat.le_refl 0
  | cons piece pieces ih =>
    obtain ⟨here, others⟩ := List.forall_mem_cons.1 isPiece
    have some := List.length_pos_iff.2 here.some
    have more := ih others
    rw [List.flatMap_cons, List.length_append, List.length_cons]
    omega

theorem repeated_pieces {pieces : List (List Char × α)} (isPiece : ∀ piece ∈ pieces, IsPiece step piece)
    (fails : step rest = none) :
    repeated step (pieces.flatMap (·.1) ++ rest) = some (pieces.map (·.2), rest) := by
  have enough : pieces.length ≤ (pieces.flatMap (·.1) ++ rest).length := by
    rw [List.length_append]
    exact Nat.le_add_right_of_le (length_le_pieces isPiece)
  exact congrArg some (repeatFor_pieces isPiece fails enough)

end Pieces

end ReplicaAtlas.Text.Scanner
