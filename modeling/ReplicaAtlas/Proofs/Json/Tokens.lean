import ReplicaAtlas.Proofs.Json.Numbers

/-!
The tokens of the text of a value. They are read one after the other up to the end of the text or the delimiter that
follows it, provided that every number is read from its own text.
-/
namespace ReplicaAtlas.Json
open Numeral

theorem hexValue?_hexDigit : ∀ n < 16, hexValue? (hexDigit n) = some n := by decide

theorem hexCode?_control {n : Nat} (control : n < 0x20) :
    hexCode? '0' '0' (hexDigit (n / 16)) (hexDigit (n % 16)) = some n := by
  have zero : hexValue? '0' = some 0 := rfl
  rw [hexCode?, zero, hexValue?_hexDigit (n / 16) (by omega), hexValue?_hexDigit (n % 16) (by omega)]
  exact congrArg some (by omega)

theorem ofCode_control {c : Char} (control : c.toNat < 0x20) : TextUnit.ofCode c.toNat = .char c := by
  rw [TextUnit.ofCode, if_neg (by simp; omega), Char.ofNat_toNat]

theorem scanUnits?_escaped (c : Char) (before : List TextUnit) (rest : List Char) :
    scanUnits? before (escaped c ++ rest) = scanUnits? (.char c :: before) rest := by
  by_cases marked : c = '"' ∨ c = '\\' ∨ c = '\n' ∨ c = '\r' ∨ c = '\t'
  · rcases marked with rfl | rfl | rfl | rfl | rfl <;> rfl
  · simp only [not_or] at marked
    obtain ⟨quote, slash, line, carriage, tab⟩ := marked
    rw [escaped, if_neg quote, if_neg slash, if_neg line, if_neg carriage, if_neg tab]
    split
    case isTrue control =>
      simp only [List.cons_append, List.nil_append]
      rw [scanUnits?, hexCode?_control control]
      dsimp only
      rw [ofCode_control control]
    case isFalse plain =>
      rw [List.singleton_append, scanUnits?, if_neg]
      · simp [plain, slash]
      · exact quote
      · exact fun _ _ _ _ _ same => absurd same slash
      · exact fun _ _ same => absurd same slash

theorem scanUnits?_quoted (cs : List Char) (before : List TextUnit) (rest : List Char) :
    scanUnits? before (cs.flatMap escaped ++ '"' :: rest) = some ((cs.map .char).reverse ++ before, rest) := by
  induction cs generalizing before with
  | nil => rfl
  | cons c cs ih =>
    rw [List.flatMap_cons, List.append_assoc, scanUnits?_escaped, ih, List.map_cons, List.reverse_cons,
      List.append_assoc]
    rfl

theorem joinUnits?_chars (cs : List Char) : joinUnits? (cs.map .char) = some cs := by
  induction cs with
  | nil => rfl
  | cons c cs ih =>
    rw [List.map_cons, joinUnits?, ih]
    rfl

theorem toList_quoted (s : String) : (quoted s).toList = '"' :: (s.toList.flatMap escaped ++ ['"']) := by
  rw [quoted, String.toList_append, String.toList_append, String.toList_ofList, String.toList_ofList]
  rfl

theorem scanToken_quoted (s : String) (rest : List Char) :
    scanToken ((quoted s).toList ++ rest) = (.text s, rest) := by
  rw [toList_quoted, List.cons_append, List.append_assoc, scanToken, List.singleton_append, scanUnits?_quoted]
  dsimp only
  rw [List.append_nil, List.reverse_reverse, textToken, joinUnits?_chars]
  dsimp only
  rw [String.ofList_toList]

def StartsNumber (c : Char) : Prop := c = '-' ∨ isDigit c = true

instance (c : Char) : Decidable (StartsNumber c) := inferInstanceAs (Decidable (c = '-' ∨ isDigit c = true))

theorem StartsNumber.visible {c : Char} (starts : StartsNumber c) : isSpace c = false := by
  by_contra space
  simp only [isSpace, Bool.not_eq_false, Bool.or_eq_true, decide_eq_true_eq] at space
  rcases space with ((rfl | rfl) | rfl) | rfl <;> exact absurd starts (by decide)

theorem startsNumber_of_scanWhole? {cs : List Char} {scanned : List Char × List Char}
    (scans : scanWhole? cs = some scanned) : ∃ c tail, cs = c :: tail ∧ StartsNumber c := by
  unfold scanWhole? at scans
  split at scans
  case h_1 tail => exact ⟨'0', tail, rfl, .inr rfl⟩
  case h_2 =>
    cases cs with
    | nil => cases scans
    | cons c tail =>
      refine ⟨c, tail, rfl, .inr ?_⟩
      by_contra noDigit
      rw [List.takeWhile_cons_of_neg noDigit] at scans
      cases scans

theorem startsNumber_of_scanUnsigned? {negative : Bool} {cs : List Char} {scanned : Numeric × List Char}
    (scans : scanUnsigned? negative cs = some scanned) : ∃ c tail, cs = c :: tail ∧ StartsNumber c := by
  obtain ⟨_, wholeScans, -⟩ := Option.bind_eq_some_iff.1 scans
  exact startsNumber_of_scanWhole? wholeScans

theorem startsNumber_of_scanNumeric? {cs : List Char} {scanned : Numeric × List Char}
    (scans : scanNumeric? cs = some scanned) : ∃ c tail, cs = c :: tail ∧ StartsNumber c := by
  unfold scanNumeric? at scans
  split at scans
  case h_1 tail => exact ⟨'-', tail, rfl, .inl rfl⟩
  case h_2 => exact startsNumber_of_scanUnsigned? scans

theorem scanToken_of_startsNumber {c : Char} (starts : StartsNumber c) {cs after : List Char} {numeric : Numeric}
    (scans : scanNumeric? (c :: cs) = some (numeric, after)) :
    scanToken (c :: cs) = ((numeric.value?.map Token.number).getD .farNumber, after) := by
  rw [scanToken, scans]
  case x_1 => exact nofun
  all_goals
    intro tail same
    cases same
    exact absurd starts (by decide)

mutual

def tokensOf : Json → List Token
  | .null => [.null]
  | .bool b => [.bool b]
  | .number n => [.number n]
  | .text s => [.text s]
  | .array items => .leftBracket :: ([Token.comma].intercalate (tokensOfItems items) ++ [.rightBracket])
  | .object members => .leftBrace :: ([Token.comma].intercalate (tokensOfMembers members) ++ [.rightBrace])

def tokensOfItems : List Json → List (List Token)
  | [] => []
  | v :: vs => tokensOf v :: tokensOfItems vs

def tokensOfMembers : List (String × Json) → List (List Token)
  | [] => []
  | (name, v) :: ms => (.text name :: .colon :: tokensOf v) :: tokensOfMembers ms

end

theorem renderItems_eq_map (items : List Json) : renderItems items = items.map render := by
  induction items with
  | nil => rfl
  | cons v rest ih => rw [renderItems, ih, List.map_cons]

theorem renderMembers_eq_map (members : List (String × Json)) :
    renderMembers members = members.map fun m => quoted m.1 ++ ":" ++ m.2.render := by
  induction members with
  | nil => rfl
  | cons m rest ih => rw [renderMembers, ih, List.map_cons]

theorem tokensOfItems_eq_map (items : List Json) : tokensOfItems items = items.map tokensOf := by
  induction items with
  | nil => rfl
  | cons v rest ih => rw [tokensOfItems, ih, List.map_cons]

theorem tokensOfMembers_eq_map (members : List (String × Json)) :
    tokensOfMembers members = members.map fun m => .text m.1 :: .colon :: tokensOf m.2 := by
  induction members with
  | nil => rfl
  | cons m rest ih => rw [tokensOfMembers, ih, List.map_cons]

theorem tokens_of_scan {c : Char} {cs after : List Char} {token : Token} (visible : isSpace c = false)
    (scans : scanToken (c :: cs) = (token, after)) (starts : token ≠ .junk) :
    tokens (c :: cs) = token :: tokens after := by
  have start : (c :: cs).dropWhile isSpace = c :: cs := List.dropWhile_cons_of_neg (Bool.eq_false_iff.1 visible)
  rw [tokens]
  split
  case h_1 same => cases start.symm.trans same
  case h_2 d tail same =>
    cases start.symm.trans same
    split
    case h_1 junk _ => exact absurd (congrArg Prod.fst (scans.symm.trans junk)) starts
    case h_2 same _ =>
      obtain ⟨rfl, rfl⟩ := Prod.mk.inj (scans.symm.trans same)
      rfl

def Token.mark? : Token → Option Char
  | .leftBrace => some '\x7b'
  | .rightBrace => some '\x7d'
  | .leftBracket => some '['
  | .rightBracket => some ']'
  | .colon => some ':'
  | .comma => some ','
  | _ => none

theorem tokens_mark (token : Token) {c : Char} (mark : token.mark? = some c) (rest : List Char) :
    tokens (c :: rest) = token :: tokens rest := by
  cases token <;> cases mark <;> exact tokens_of_scan rfl rfl nofun

theorem tokens_quoted (s : String) (rest : List Char) :
    tokens ((quoted s).toList ++ rest) = .text s :: tokens rest := by
  have scans := scanToken_quoted s rest
  rw [toList_quoted] at scans ⊢
  exact tokens_of_scan rfl scans nofun

theorem tokens_number {n : Number} (legible : n.Legible) {rest : List Char} (delimited : Delimited rest) :
    tokens ((render (.number n)).toList ++ rest) = .number n :: tokens rest := by
  obtain ⟨numeric, scans, read⟩ := legible
  obtain ⟨c, tail, text, starts⟩ := startsNumber_of_scanNumeric? scans
  have scansOn := scanNumeric?_append delimited scans
  rw [text] at scansOn ⊢
  have token := scanToken_of_startsNumber starts scansOn
  rw [read] at token
  exact tokens_of_scan starts.visible token nofun

theorem tokens_intercalate {α : Type} {text : α → List Char} {read : α → List Token} {as : List α}
    (each : ∀ a ∈ as, ∀ rest, Delimited rest → tokens (text a ++ rest) = read a ++ tokens rest) {rest : List Char}
    (delimited : Delimited rest) :
    tokens ([','].intercalate (as.map text) ++ rest) = [Token.comma].intercalate (as.map read) ++ tokens rest := by
  induction as with
  | nil => rfl
  | cons a others ih =>
    have first := each a List.mem_cons_self
    have laterOnes := ih fun other member => each other (List.mem_cons_of_mem _ member)
    cases others with
    | nil =>
      simp only [List.map_cons, List.map_nil, List.intercalate_singleton]
      exact first rest delimited
    | cons b others =>
      simp only [List.map_cons, List.intercalate_cons_cons, List.append_assoc] at laterOnes ⊢
      rw [List.singleton_append, first _ (Delimited.cons (.inl rfl) _), tokens_mark .comma rfl, laterOnes,
        List.singleton_append]

theorem toList_render_array (items : List Json) :
    (render (.array items)).toList = '[' :: ([','].intercalate (items.map fun v => v.render.toList) ++ [']']) := by
  rw [render, renderItems_eq_map, String.toList_append, String.toList_append, String.toList_intercalate, List.map_map]
  rfl

theorem toList_render_object (members : List (String × Json)) :
    (render (.object members)).toList = '\x7b' ::
      ([','].intercalate (members.map fun m => (quoted m.1).toList ++ ':' :: m.2.render.toList) ++ ['\x7d']) := by
  have written (m : String × Json) :
      (quoted m.1 ++ ":" ++ m.2.render).toList = (quoted m.1).toList ++ ':' :: m.2.render.toList := by
    rw [String.toList_append, String.toList_append, List.append_assoc]
    rfl
  rw [render, renderMembers_eq_map, String.toList_append, String.toList_append, String.toList_intercalate,
    List.map_map]
  simp only [Function.comp_def, written]
  rfl

/-- What is written for a value is read as the tokens of the value, up to a delimiter. -/
theorem tokens_render {v : Json} (legible : ∀ n ∈ v.numbers, n.Legible) {rest : List Char}
    (delimited : Delimited rest) : tokens (v.render.toList ++ rest) = tokensOf v ++ tokens rest := by
  induction v using nested_induction generalizing rest with
  | null => exact tokens_of_scan rfl rfl nofun
  | bool b => cases b <;> exact tokens_of_scan rfl rfl nofun
  | number n => exact tokens_number (legible n List.mem_cons_self) delimited
  | text s => exact tokens_quoted s rest
  | array items ih =>
    have inside (v) (member : v ∈ items) (rest) (delimited : Delimited rest) :
        tokens (v.render.toList ++ rest) = tokensOf v ++ tokens rest :=
      ih v member (fun n among => legible n (mem_numbers_array.2 ⟨v, member, among⟩)) delimited
    rw [toList_render_array, List.cons_append, tokens_mark .leftBracket rfl, List.append_assoc,
      List.singleton_append, tokens_intercalate inside (.cons (.inr (.inl rfl)) _), tokens_mark .rightBracket rfl,
      tokensOf, tokensOfItems_eq_map, List.cons_append, List.append_assoc]
    rfl
  | object members ih =>
    have inside (m) (member : m ∈ members) (rest) (delimited : Delimited rest) :
        tokens ((quoted m.1).toList ++ ':' :: m.2.render.toList ++ rest) =
          (.text m.1 :: .colon :: tokensOf m.2) ++ tokens rest := by
      rw [List.append_assoc, tokens_quoted, List.cons_append, tokens_mark .colon rfl,
        ih m member (fun n among => legible n (mem_numbers_object.2 ⟨m, member, among⟩)) delimited]
      rfl
    rw [toList_render_object, List.cons_append, tokens_mark .leftBrace rfl, List.append_assoc,
      List.singleton_append, tokens_intercalate inside (.cons (.inr (.inr rfl)) _), tokens_mark .rightBrace rfl,
      tokensOf, tokensOfMembers_eq_map, List.cons_append, List.append_assoc]
    rfl

theorem textToken_ne_number (units : List TextUnit) (n : Number) : textToken units ≠ .number n := by
  rw [textToken]
  split <;> exact nofun

theorem isWord_of_scanToken {cs rest : List Char} {n : Int} (scans : scanToken cs = (.number (.int n), rest)) :
    IsWord n := by
  unfold scanToken at scans
  split at scans
  case h_11 =>
    split at scans
    · exact absurd (congrArg Prod.fst scans) (textToken_ne_number _ _)
    · cases scans
  case h_12 =>
    split at scans
    case h_1 numeric _ _ =>
      have token := congrArg Prod.fst scans
      dsimp only at token
      cases read : numeric.value? with
      | none =>
        rw [read] at token
        cases token
      | some m =>
        rw [read] at token
        cases token
        exact numeric.isWord_of_value? read
    case h_2 => cases scans
  all_goals cases scans

theorem isWord_of_mem_tokens {cs : List Char} {n : Int} (member : .number (.int n) ∈ tokens cs) : IsWord n := by
  fun_induction tokens cs with
  | case1 => exact absurd member List.not_mem_nil
  | case2 _ c rest start after shorter scans =>
    split at member
    case h_1 => cases List.mem_singleton.1 member
    case h_2 notJunk same _ => exact absurd (congrArg Prod.fst (same.symm.trans scans)) notJunk
  | case3 _ c rest start token after shorter notJunk scans ih =>
    split at member
    case h_1 junk _ => exact absurd (congrArg Prod.fst (scans.symm.trans junk)) notJunk
    case h_2 same _ =>
      cases scans.symm.trans same
      rcases List.mem_cons.1 member with rfl | later
      · exact isWord_of_scanToken scans
      · exact ih later

end ReplicaAtlas.Json
