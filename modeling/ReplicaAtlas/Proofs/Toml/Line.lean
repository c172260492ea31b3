import ReplicaAtlas.Proofs.Toml.Numeral
import ReplicaAtlas.Proofs.Toml.Text
import ReplicaAtlas.Toml.Reader

/-!
The lines of a TOML document as they are written: blank lines, headers and assignments with bare names. Each one is read
as the line that it is whatever follows, and so is a document that is put together from them.
-/
namespace ReplicaAtlas.Toml
open Text Numeral Scanner

theorem not_isLineSpace {test : Char → Bool} {c : Char} (noBlank : test ' ' = false) (noTab : test '\t' = false)
    (passed : test c = true) : isLineSpace c = false := by
  rw [isLineSpace, Bool.or_eq_false_iff, decide_eq_false_iff_not, decide_eq_false_iff_not]
  constructor
  · rintro rfl
    exact Bool.false_ne_true (noBlank.symm.trans passed)
  · rintro rfl
    exact Bool.false_ne_true (noTab.symm.trans passed)

/-- The text is read as the document if its line ends there, and it does not begin with a blank. -/
structure IsValue (written : List Char) (document : Document) : Prop where
  visible : ∀ c ∈ written.head?, isLineSpace c = false
  reads : ∀ rest, value (written ++ '\n' :: rest) = some (document, '\n' :: rest)

theorem valueWithin_of_scalar {cs : List Char} (noArray : cs.head? ≠ some '[') (noBraces : cs.head? ≠ some '\x7b')
    (levels : ℕ) : valueWithin levels cs = scalar cs := by
  cases levels with
  | zero => rfl
  | succ levels =>
    have array : array (valueWithin levels) cs = none := bind_of_none (symbol_eq_none noArray)
    have braces : braces (valueWithin levels) cs = none := bind_of_none (symbol_eq_none noBraces)
    rw [valueWithin, either_of_none array, either_of_none braces]

theorem apart_newline (rest : List Char) : Apart ('\n' :: rest) where
  double := by simp
  single := by simp

theorem head?_printText (cs : List Char) :
    (printText cs).head? = some '"' ∨ (printText cs).head? = some '\'' := by
  unfold printText
  cases TextForm.of cs with
  | basic => exact .inl rfl
  | literal => exact .inr rfl
  | longBasic => exact .inl rfl
  | longLiteral => exact .inr rfl

theorem head?_append_of_head? {cs : List Char} {c : Char} (first : cs.head? = some c) (rest : List Char) :
    (cs ++ rest).head? = some c := by
  rw [List.head?_append, first]
  rfl

theorem isValue_text (s : String) : IsValue (printText s.toList) (.text s) where
  visible := by
    rcases head?_printText s.toList with first | first <;> (rw [first]; rintro _ ⟨⟩; rfl)
  reads rest := by
    have scalar : scalar (printText s.toList ++ '\n' :: rest) = some (.text s, '\n' :: rest) := by
      refine either_of_some ((bind_of_some (text_printText (apart_newline rest) s.toList)).trans ?_)
      rw [String.ofList_toList]
      rfl
    rw [value, valueWithin_of_scalar, scalar]
    · rcases head?_printText s.toList with first | first <;> (rw [head?_append_of_head? first]; decide)
    · rcases head?_printText s.toList with first | first <;> (rw [head?_append_of_head? first]; decide)

theorem isValue_number {n : ℕ} (fits : n < 2 ^ 63) : IsValue (printNumber n) (.number (.int n)) where
  visible c first := not_isLineSpace rfl rfl (isDigit_of_mem_printNumber c (List.mem_of_mem_head? first))
  reads rest := by
    have digits {c : Char} := head?_digits (isDigit_of_mem_printNumber (n := n)) rest (c := c)
    have apart : Apart (printNumber n ++ '\n' :: rest) :=
      ⟨digits (by decide) (by decide), digits (by decide) (by decide)⟩
    have text : text (printNumber n ++ '\n' :: rest) = none := text_eq_none apart
    have truth : truth (printNumber n ++ '\n' :: rest) = none := by
      refine (either_of_none (bind_of_none ?_)).trans (bind_of_none ?_)
      · exact exactly_digits isDigit_of_mem_printNumber rest (by decide) (by decide) _
      · exact exactly_digits isDigit_of_mem_printNumber rest (by decide) (by decide) _
    rw [value, valueWithin_of_scalar, scalar, either_of_none (bind_of_none text), either_of_none (bind_of_none truth),
      number_printNumber rest fits]
    · exact digits (by decide) (by decide)
    · exact digits (by decide) (by decide)

theorem isValue_truth (b : Bool) : IsValue (printTruth b) (.bool b) where
  visible := by
    cases b <;> (rintro _ ⟨⟩; rfl)
  reads rest := by
    cases b <;> rfl

theorem digits_eq_none {c : Char} (noDigit : isDigit c = false) (count : ℕ) (rest : List Char) :
    digits (count + 1) (c :: rest) = none := by
  refine if_neg ?_
  simp [noDigit]

theorem number_closing (rest : List Char) : number (']' :: rest) = none := by
  have date : date (']' :: rest) = none := bind_of_none (digits_eq_none (by decide) 3 rest)
  have time : time (']' :: rest) = none := bind_of_none (bind_of_none (digits_eq_none (by decide) 1 rest))
  have moment : moment (']' :: rest) = none := (either_of_none (bind_of_none date)).trans time
  rw [number, either_of_none (bind_of_none moment)]
  rfl

/-- Where an item could begin, the array ends. -/
theorem array_noItems {item : Scanner Document} {rest : List Char} (noItem : item (']' :: rest) = none) :
    array item ('[' :: ']' :: rest) = some (.array [] false, rest) := by
  have noGap : gap (']' :: rest) = some ((), ']' :: rest) := rfl
  have noItems : separated (symbol ',') (do gap; let value ← item; gap; return value) (']' :: rest) =
      some ([], ']' :: rest) :=
    either_of_none (bind_of_none ((bind_of_some noGap).trans (bind_of_none noItem)))
  refine (bind_of_some (symbol_cons '[' _)).trans ?_
  exact (bind_of_some noItems).trans rfl

theorem isValue_noItems : IsValue ['[', ']'] (.array [] false) where
  visible := by
    rintro _ ⟨⟩
    rfl
  reads rest := by
    refine either_of_some (array_noItems ?_)
    rw [valueWithin_of_scalar (by simp) (by simp), scalar, either_of_none rfl, either_of_none rfl, number_closing]

def IsBareName (name : String) : Prop := name.toList ≠ [] ∧ name.toList.all isBare = true

instance (name : String) : Decidable (IsBareName name) := inferInstanceAs (Decidable (_ ∧ _))

section Bare
variable {name : String} (bare : IsBareName name) (rest : List Char)
include bare

theorem exists_head_of_bare : ∃ c cs, name.toList = c :: cs ∧ isBare c = true := by
  obtain ⟨some, all⟩ := bare
  cases letters : name.toList with
  | nil => exact absurd letters some
  | cons c cs => exact ⟨c, cs, rfl, List.all_eq_true.1 all c (letters ▸ List.mem_cons_self)⟩

theorem head?_bare {c : Char} (other : isBare c = false) : (name.toList ++ rest).head? ≠ some c := by
  obtain ⟨d, cs, letters, first⟩ := exists_head_of_bare bare
  rw [letters]
  intro same
  cases same
  exact Bool.false_ne_true (other.symm.trans first)

theorem spaces_bare : spaces (name.toList ++ rest) = some ((), name.toList ++ rest) := by
  obtain ⟨c, cs, letters, first⟩ := exists_head_of_bare bare
  have visible := not_isLineSpace rfl rfl first
  rw [letters, List.cons_append, spaces, List.dropWhile_cons_of_neg (by simp [visible])]

theorem apart_bare : Apart (name.toList ++ rest) :=
  ⟨head?_bare bare rest (by decide), head?_bare bare rest (by decide)⟩

variable {rest} (ends : ∀ c ∈ rest.head?, isBare c = false)
include ends

theorem bareKey_bare : bareKey (name.toList ++ rest) = some (name, rest) := by
  rw [bareKey, bind_of_some (run1_append bare.1 (List.all_eq_true.1 bare.2) ends), String.ofList_toList]
  rfl

theorem keyPart_bare : keyPart (name.toList ++ rest) = some (name, rest.dropWhile isLineSpace) := by
  refine (bind_of_some (spaces_bare bare rest)).trans ?_
  exact bind_of_some ((either_of_none (shortText_eq_none (apart_bare bare rest))).trans (bareKey_bare bare ends))

theorem key_bare (noDot : (rest.dropWhile isLineSpace).head? ≠ some '.') :
    key (name.toList ++ rest) = some (([], name), rest.dropWhile isLineSpace) := by
  refine (bind_of_some (keyPart_bare bare ends)).trans ?_
  exact bind_of_some (repeated_of_none (bind_of_none (symbol_eq_none noDot)))

end Bare

theorem line_of_visible {cs : List Char} (starts : spaces cs = some ((), cs)) (noNewline : newline cs = none)
    (noComment : symbol '#' cs = none) :
    line cs = either (before (header ['[', '['] [']', ']'] true) lineRest)
      (either (before (header ['['] [']'] false) lineRest)
        (before (do return .assignment (← assignment value)) lineRest)) cs := by
  have comment : comment cs = none := bind_of_none noComment
  rw [line, bind_of_some starts, either_of_none (bind_of_none noNewline), either_of_none (bind_of_none comment)]

theorem isPiece_blank : IsPiece line (printLine [], .blank) where
  some := nofun
  reads _ := rfl

section Lines
variable {name : String} (bare : IsBareName name)
include bare

theorem header_bare (opening closing : List Char) (isElement : Bool) (rest : List Char) :
    header opening (']' :: closing) isElement (opening ++ (name.toList ++ (']' :: closing ++ rest))) =
      some (.header [] name isElement, rest) := by
  refine (bind_of_some (exactly_append opening _)).trans ?_
  refine (bind_of_some (key_bare bare ?_ ?_)).trans ?_
  · rintro _ ⟨⟩
    rfl
  · intro same
    cases same
  · exact bind_of_some (exactly_append (']' :: closing) rest)

theorem isPiece_header : IsPiece line (printHeader name, .header [] name false) where
  some := nofun
  reads rest := by
    have noElement : header ['[', '['] [']', ']'] true ('[' :: (name.toList ++ ']' :: '\n' :: rest)) = none := by
      refine bind_of_none (exactly_eq_none ?_)
      rintro ⟨after, same⟩
      exact head?_bare bare _ (by decide) (congrArg List.head? (List.cons.inj same).2.symm)
    have reads := header_bare bare ['['] [] false ('\n' :: rest)
    rw [printHeader, printLine]
    simp only [List.cons_append, List.append_assoc, List.nil_append] at reads ⊢
    rw [line_of_visible rfl rfl rfl, either_of_none (before_of_none noElement)]
    exact either_of_some (before_of_some reads rfl)

theorem isPiece_elementHeader : IsPiece line (printElementHeader name, .header [] name true) where
  some := nofun
  reads rest := by
    have reads := header_bare bare ['[', '['] [']'] true ('\n' :: rest)
    rw [printElementHeader, printLine]
    simp only [List.cons_append, List.append_assoc, List.nil_append] at reads ⊢
    rw [line_of_visible rfl rfl rfl]
    exact either_of_some (before_of_some reads rfl)

theorem assignment_bare {written : List Char} {document : Document} (isValue : IsValue written document)
    (rest : List Char) :
    assignment value (name.toList ++ ([' ', '=', ' '] ++ (written ++ '\n' :: rest))) =
      some (⟨[], name, document⟩, '\n' :: rest) := by
  refine (bind_of_some (key_bare bare ?_ ?_)).trans ?_
  · rintro _ ⟨⟩
    rfl
  · intro same
    cases same
  have blank : spaces (' ' :: (written ++ '\n' :: rest)) = some ((), written ++ '\n' :: rest) := by
    cases written with
    | nil => rfl
    | cons c cs =>
      have visible := isValue.visible c rfl
      rw [spaces, List.dropWhile_cons_of_pos rfl, List.cons_append, List.dropWhile_cons_of_neg (by simp [visible])]
  exact (bind_of_some (symbol_cons '=' _)).trans ((bind_of_some blank).trans (bind_of_some (isValue.reads rest)))

theorem isPiece_assignment {written : List Char} {document : Document} (isValue : IsValue written document) :
    IsPiece line (printAssignment name written, .assignment ⟨[], name, document⟩) where
  some := by simp [printAssignment, printLine]
  reads rest := by
    have first {c : Char} := head?_bare bare ([' ', '=', ' '] ++ (written ++ '\n' :: rest)) (c := c)
    have noNewline : newline (name.toList ++ ([' ', '=', ' '] ++ (written ++ '\n' :: rest))) = none := by
      unfold newline
      split
      case h_1 form => exact absurd (congrArg List.head? form) (first (by decide))
      case h_2 form => exact absurd (congrArg List.head? form) (first (by decide))
      case h_3 => rfl
    have noHeader (isElement : Bool) (closing opening : List Char) :
        header ('[' :: opening) closing isElement (name.toList ++ ([' ', '=', ' '] ++ (written ++ '\n' :: rest))) =
          none := by
      refine bind_of_none (exactly_eq_none ?_)
      rintro ⟨after, same⟩
      exact first (by decide) (congrArg List.head? same.symm)
    have letters : printAssignment name written ++ rest =
        name.toList ++ ([' ', '=', ' '] ++ (written ++ '\n' :: rest)) := by
      simp [printAssignment, printLine]
    -- With a bare name in front the line is neither empty nor a comment nor a header.
    rw [letters, line_of_visible (spaces_bare bare _) noNewline (symbol_eq_none (first (by decide))),
      either_of_none (before_of_none (noHeader _ _ _)), either_of_none (before_of_none (noHeader _ _ _))]
    exact before_of_some (bind_of_some (assignment_bare bare isValue rest)) rfl

end Lines

section Documents
variable {pieces : List (List Char × Line)} (isPiece : ∀ piece ∈ pieces, IsPiece line piece)
  (noMark : (pieces.flatMap (·.1)).head? ≠ some byteOrderMark)
include isPiece noMark

theorem lines_pieces : lines (pieces.flatMap (·.1)) = some (pieces.map (·.2), []) := by
  have mark : symbol byteOrderMark (pieces.flatMap (·.1)) = none := symbol_eq_none noMark
  have reads : repeated line (pieces.flatMap (·.1) ++ []) = some (pieces.map (·.2), []) :=
    repeated_pieces isPiece rfl
  rw [List.append_nil] at reads
  rw [lines, bind_of_some (optionally_of_none mark), bind_of_some reads]
  rfl

/-- A document that is put together from lines has the meaning of these lines. -/
theorem parse?_pieces : parse? (String.ofList (pieces.flatMap (·.1))) =
    assemble (sections (pieces.map (·.2))).1 (sections (pieces.map (·.2))).2 := by
  rw [parse?, String.toList_ofList, lines_pieces isPiece noMark]
  rfl

end Documents

end ReplicaAtlas.Toml
