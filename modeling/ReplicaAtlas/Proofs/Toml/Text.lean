import ReplicaAtlas.Proofs.Toml.Quotes

/-!
Texts that are written into a TOML document are read back from it, in whichever form they are written. What follows a
text is left alone, unless it begins with a quote.
-/
namespace ReplicaAtlas.Toml
open Text

structure Apart (tail : List Char) : Prop where
  double : tail.head? ≠ some '"'
  single : tail.head? ≠ some '\''

theorem text_eq_none {cs : List Char} (apart : Apart cs) : text cs = none := by
  unfold text
  split
  case h_1 => exact absurd rfl apart.double
  case h_2 => exact absurd rfl apart.single
  case h_3 => exact absurd rfl apart.double
  case h_4 => exact absurd rfl apart.single
  case h_5 => rfl

theorem shortText_eq_none {cs : List Char} (apart : Apart cs) : shortText cs = none := by
  unfold shortText
  split
  case h_1 => exact absurd rfl apart.double
  case h_2 => exact absurd rfl apart.single
  case h_3 => rfl

theorem text_basic {rest : List Char} (once : ¬['"', '"'] <+: rest) :
    text ('"' :: rest) = (basicRest false .none rest).map fun (text, rest) => (String.ofList text, rest) := by
  rcases rest with - | ⟨d, rest⟩
  · rfl
  by_cases quote : d = '"'
  case neg => simp [text, quote]
  case pos =>
    subst quote
    rcases rest with - | ⟨e, rest⟩
    · rfl
    have other : e ≠ '"' := by
      rintro rfl
      exact once ⟨rest, rfl⟩
    simp [text, other]

theorem text_literal {rest : List Char} (once : ¬['\'', '\''] <+: rest) :
    text ('\'' :: rest) = (literalRest false rest).map fun (text, rest) => (String.ofList text, rest) := by
  rcases rest with - | ⟨d, rest⟩
  · rfl
  by_cases quote : d = '\''
  case neg => simp [text, quote]
  case pos =>
    subst quote
    rcases rest with - | ⟨e, rest⟩
    · rfl
    have other : e ≠ '\'' := by
      rintro rfl
      exact once ⟨rest, rfl⟩
    simp [text, other]

theorem text_longBasic (rest : List Char) :
    text ('"' :: '"' :: '"' :: rest) =
      (basicRest true .none (dropNewline rest)).map fun (text, rest) => (String.ofList text, rest) := rfl

theorem text_longLiteral (rest : List Char) :
    text ('\'' :: '\'' :: '\'' :: rest) =
      (literalRest true (dropNewline rest)).map fun (text, rest) => (String.ofList text, rest) := rfl

theorem plain_of_literal {cs : List Char} (form : TextForm.of cs = .literal) :
    ∀ c ∈ cs, isPlain c = true ∧ c ≠ '\'' := by
  simp only [TextForm.of] at form
  split_ifs at form with basic literal
  simp only [Bool.and_eq_true, Bool.not_eq_true', List.any_eq_false, List.contains_eq_mem, decide_eq_true_eq,
    decide_eq_false_iff_not] at literal
  obtain ⟨⟨codes, newline⟩, single⟩ := literal
  intro c member
  have noNewline : c ≠ '\n' := fun same => newline (same ▸ member)
  have noQuote : c ≠ '\'' := fun same => not_mem_of_longestRun single (same ▸ member)
  have plain := not_needsEscape_iff.1 (Bool.eq_false_iff.2 (codes c member))
  exact ⟨plain.resolve_right noNewline, noQuote⟩

theorem few_of_longLiteral {cs : List Char} (form : TextForm.of cs = .longLiteral) :
    longestRun '\'' 0 cs ≤ 2 ∧ ∀ c ∈ cs, needsEscape c = false := by
  simp only [TextForm.of] at form
  split_ifs at form with basic literal longBasic longLiteral
  simp only [Bool.and_eq_true, Bool.not_eq_true', List.any_eq_false, decide_eq_true_eq] at longLiteral
  exact ⟨longLiteral.2, fun c member => Bool.eq_false_iff.2 (longLiteral.1 c member)⟩

theorem dropNewline_of_head? {cs : List Char} (first : ∀ c ∈ cs.head?, c ≠ '\n' ∧ c ≠ '\r') : dropNewline cs = cs := by
  unfold dropNewline
  split
  · exact absurd rfl (first _ rfl).1
  · exact absurd rfl (first _ rfl).2
  · rfl

/-- The newline that does not count stands in front of a text with any, so that none of its own is lost. -/
theorem dropNewline_leadingNewline {cs written : List Char}
    (first : '\n' ∉ cs → ∀ c ∈ written.head?, c ≠ '\n' ∧ c ≠ '\r') :
    dropNewline (leadingNewline cs ++ written) = written := by
  rw [leadingNewline]
  split_ifs with newline
  · rfl
  · rw [List.contains_eq_mem, decide_eq_true_eq] at newline
    exact dropNewline_of_head? (first newline)

theorem head?_basicChars {cs : List Char} (noNewline : '\n' ∉ cs) (rest : List Char) :
    ∀ c ∈ (basicChars true 0 cs ++ '"' :: rest).head?, c ≠ '\n' ∧ c ≠ '\r' := by
  intro c first
  cases cs with
  | nil =>
    cases first
    decide
  | cons d cs =>
    rw [List.mem_cons, not_or] at noNewline
    by_cases quote : d = '"'
    case pos =>
      subst quote
      rw [basicChars_quote (by decide)] at first
      cases first
      decide
    case neg =>
      obtain ⟨e, more, starts, escaped | ⟨same, noReturn⟩⟩ := basicChar_starts true d
      · rw [basicChars, if_neg quote, starts] at first
        cases first
        exact escaped ▸ by decide
      · rw [basicChars, if_neg quote, starts] at first
        cases first
        exact same ▸ ⟨Ne.symm noNewline.1, noReturn⟩

theorem head?_literal {cs : List Char} (noNewline : '\n' ∉ cs) (plain : ∀ c ∈ cs, needsEscape c = false)
    (rest : List Char) : ∀ c ∈ (cs ++ '\'' :: rest).head?, c ≠ '\n' ∧ c ≠ '\r' := by
  intro c first
  cases cs with
  | nil =>
    cases first
    decide
  | cons d cs =>
    cases first
    constructor
    · rintro rfl
      exact noNewline List.mem_cons_self
    · rintro rfl
      exact absurd (plain '\r' List.mem_cons_self) (by decide)

section Forms
variable {cs tail : List Char} (apart : Apart tail)
include apart

theorem text_of_basic (form : TextForm.of cs = .basic) :
    text (printText cs ++ tail) = some (String.ofList cs, tail) := by
  have once : ¬['"', '"'] <+: basicChars false 0 cs ++ '"' :: tail := by
    cases cs with
    | nil =>
      rintro ⟨rest, same⟩
      cases same
      exact apart.double rfl
    | cons c cs =>
      obtain ⟨d, more, first, noQuote⟩ := basicChars_starts 0 (.inr (.inl rfl)) cs
      rw [first]
      rintro ⟨rest, same⟩
      exact noQuote (List.cons.inj same).1.symm
  rw [printText, form]
  simp only [List.cons_append, List.append_assoc, List.nil_append]
  rw [text_basic once, basicRest_basicChars_short]
  rfl

theorem text_of_literal (form : TextForm.of cs = .literal) :
    text (printText cs ++ tail) = some (String.ofList cs, tail) := by
  have plain := plain_of_literal form
  have once : ¬['\'', '\''] <+: cs ++ '\'' :: tail := by
    rintro ⟨rest, same⟩
    cases cs with
    | nil =>
      cases same
      exact apart.single rfl
    | cons c cs => exact (plain c List.mem_cons_self).2 (List.cons.inj same).1.symm
  rw [printText, form]
  simp only [List.cons_append, List.append_assoc, List.nil_append]
  rw [text_literal once, literalRest_short_of_plain plain]
  rfl

theorem text_of_longBasic (form : TextForm.of cs = .longBasic) :
    text (printText cs ++ tail) = some (String.ofList cs, tail) := by
  rw [printText, form]
  simp only [List.cons_append, List.append_assoc, List.nil_append]
  rw [text_longBasic, dropNewline_leadingNewline fun noNewline => head?_basicChars noNewline _,
    basicRest_basicChars_long apart.double]
  rfl

theorem text_of_longLiteral (form : TextForm.of cs = .longLiteral) :
    text (printText cs ++ tail) = some (String.ofList cs, tail) := by
  obtain ⟨few, plain⟩ := few_of_longLiteral form
  rw [printText, form]
  simp only [List.cons_append, List.append_assoc, List.nil_append]
  rw [text_longLiteral, dropNewline_leadingNewline fun noNewline => head?_literal noNewline plain _,
    literalRest_long_of_longestRun apart.single few plain]
  rfl

/-- Every text comes back from the form that was chosen for it. -/
theorem text_printText (cs : List Char) : text (printText cs ++ tail) = some (String.ofList cs, tail) := by
  cases form : TextForm.of cs with
  | basic => exact text_of_basic apart form
  | literal => exact text_of_literal apart form
  | longBasic => exact text_of_longBasic apart form
  | longLiteral => exact text_of_longLiteral apart form

end Forms

end ReplicaAtlas.Toml
