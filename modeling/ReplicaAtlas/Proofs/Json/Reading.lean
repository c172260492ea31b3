import ReplicaAtlas.Json.Reader
import ReplicaAtlas.Proofs.Json.Layout
import ReplicaAtlas.Proofs.Json.Tokens

/-!
Reading a text into a document. The tokens of a value are read as the document of that value wherever a value is
expected, as long as no more containers stand one in the other than the reader keeps open. So the text of a value is
read as the document of the value, with nothing left over.
-/
namespace ReplicaAtlas.Json

/-- What the reader does with a value that it has read: it goes into the innermost open container. -/
def deliver (value : Document) (rest : List Token) : List Open → Reading
  | [] => ⟨value, !rest.isEmpty⟩
  | container :: outer => assemble rest .commaOrEnd (container.add value :: outer)

theorem closed_eq_close {container : Open} {around : List Open} (shallow : around.length < depthLimit) :
    closed container around = container.close :=
  if_pos (List.isEmpty_iff.2 (List.drop_eq_nil_of_le (Nat.le_pred_of_lt shallow)))

def Place.StartsValue (place : Place) : Prop := place = .value ∨ place = .valueOrEnd

def Place.StartsName (place : Place) : Prop := place = .name ∨ place = .nameOrEnd

/-- Things are read one after the other into a container, where each of them is read as what is made of it. -/
theorem assemble_sequence {α β : Type} {read : α → List Token} {made : α → β} (container : List β → Open)
    {starts : Place → Prop} {next : Place} {outer : List Open} {as : List α} (later : starts next)
    (comma : ∀ before rest, assemble (.comma :: rest) .commaOrEnd (container before :: outer) =
      assemble rest next (container before :: outer))
    (each : ∀ a ∈ as, ∀ place, starts place → ∀ before rest,
      assemble (read a ++ rest) place (container before :: outer) =
        assemble rest .commaOrEnd (container (made a :: before) :: outer))
    {place : Place} (now : starts place) (some : as ≠ []) (before : List β) (rest : List Token) :
    assemble ([Token.comma].intercalate (as.map read) ++ rest) place (container before :: outer) =
      assemble rest .commaOrEnd (container ((as.map made).reverse ++ before) :: outer) := by
  induction as generalizing place before with
  | nil => exact absurd rfl some
  | cons a others ih =>
    have first := each a List.mem_cons_self place now before
    cases others with
    | nil =>
      rw [List.map_singleton, List.intercalate_singleton, first]
      rfl
    | cons b others =>
      have laterOnes := ih (fun other member => each other (List.mem_cons_of_mem _ member)) later
        (List.cons_ne_nil b _) (made a :: before)
      rw [List.map_cons, List.map_cons, List.intercalate_cons_cons, List.append_assoc, List.append_assoc, first,
        List.singleton_append, comma, List.map_cons, List.reverse_cons, List.append_assoc]
      exact laterOnes

theorem assemble_items {items : List Json} {outer : List Open}
    (each : ∀ v ∈ items, ∀ place : Place, place.StartsValue → ∀ before rest,
      assemble (tokensOf v ++ rest) place (.array before :: outer) =
        assemble rest .commaOrEnd (.array (.ofJson v :: before) :: outer)) (rest : List Token) :
    assemble ([Token.comma].intercalate (items.map tokensOf) ++ .rightBracket :: rest) .valueOrEnd
        (.array [] :: outer) =
      deliver (closed (.array (items.map .ofJson).reverse) outer) rest outer := by
  by_cases empty : items = []
  · subst empty
    rfl
  · rw [assemble_sequence .array (.inl rfl) (fun _ _ => rfl) each (.inr rfl) empty, List.append_nil]
    rfl

theorem assemble_members {members : List (String × Json)} {outer : List Open}
    (each : ∀ m ∈ members, ∀ before rest, assemble (tokensOf m.2 ++ rest) .value (.object before (some m.1) :: outer) =
        assemble rest .commaOrEnd (.object ((some m.1, .ofJson m.2) :: before) none :: outer)) (rest : List Token) :
    assemble ([Token.comma].intercalate (members.map fun m => .text m.1 :: .colon :: tokensOf m.2) ++
        .rightBrace :: rest) .nameOrEnd (.object [] none :: outer) =
      deliver (closed (.object (members.map fun m => (some m.1, .ofJson m.2)).reverse none) outer) rest outer := by
  have named (m) (member : m ∈ members) (place : Place) (starts : place.StartsName) (before rest) :
      assemble (.text m.1 :: .colon :: tokensOf m.2 ++ rest) place (.object before none :: outer) =
        assemble rest .commaOrEnd (.object ((some m.1, .ofJson m.2) :: before) none :: outer) := by
    rw [← each m member before rest]
    rcases starts with rfl | rfl <;> rfl
  by_cases empty : members = []
  · subst empty
    rfl
  · rw [assemble_sequence (.object · none) (.inl rfl) (fun _ _ => rfl) named (.inr rfl) empty,
      List.append_nil]
    rfl

/-- The tokens of a value are read as the document of the value where one is expected. -/
theorem assemble_tokensOf {v : Json} {place : Place} (starts : place.StartsValue) {stack : List Open}
    (shallow : v.depth + stack.length ≤ depthLimit) (rest : List Token) :
    assemble (tokensOf v ++ rest) place stack = deliver (.ofJson v) rest stack := by
  induction v using nested_induction generalizing place stack rest with
  | null => rcases starts with rfl | rfl <;> rfl
  | bool b => rcases starts with rfl | rfl <;> rfl
  | number n => rcases starts with rfl | rfl <;> rfl
  | text s => rcases starts with rfl | rfl <;> rcases stack with _ | ⟨_ | _, outer⟩ <;> rfl
  | array items ih =>
    rw [depth] at shallow
    have opens : assemble (tokensOf (.array items) ++ rest) place stack =
        assemble ([Token.comma].intercalate (items.map tokensOf) ++ .rightBracket :: rest) .valueOrEnd
          (.array [] :: stack) := by
      rw [tokensOf, tokensOfItems_eq_map, List.cons_append, List.append_assoc]
      rcases starts with rfl | rfl <;> rfl
    have each (v) (member : v ∈ items) (place : Place) (starts : place.StartsValue) (before rest) :
        assemble (tokensOf v ++ rest) place (.array before :: stack) =
          assemble rest .commaOrEnd (.array (.ofJson v :: before) :: stack) := by
      have shallower := depthOfItems_le_iff.1 (Nat.le_refl _) v member
      exact ih v member starts (by rw [List.length_cons]; omega) rest
    rw [opens, assemble_items each, closed_eq_close (by omega), Open.close, List.reverse_reverse, Document.ofJson,
      Document.ofItems_eq_map]
  | object members ih =>
    rw [depth] at shallow
    have opens : assemble (tokensOf (.object members) ++ rest) place stack =
        assemble ([Token.comma].intercalate (members.map fun m => .text m.1 :: .colon :: tokensOf m.2) ++
          .rightBrace :: rest) .nameOrEnd (.object [] none :: stack) := by
      rw [tokensOf, tokensOfMembers_eq_map, List.cons_append, List.append_assoc]
      rcases starts with rfl | rfl <;> rfl
    have each (m) (member : m ∈ members) (before rest) :
        assemble (tokensOf m.2 ++ rest) .value (.object before (some m.1) :: stack) =
          assemble rest .commaOrEnd (.object ((some m.1, .ofJson m.2) :: before) none :: stack) := by
      have shallower := depthOfMembers_le_iff.1 (Nat.le_refl _) m member
      exact ih m member (.inl rfl) (by rw [List.length_cons]; omega) rest
    rw [opens, assemble_members each, closed_eq_close (by omega), Open.close, List.reverse_reverse, Document.ofJson,
      Document.ofMembers_eq_map]

/-- The text of a value that is not nested too deeply is read as the document of the value. -/
theorem read_render {v : Json} (shallow : v.depth ≤ depthLimit) (legible : ∀ n ∈ v.numbers, n.Legible) :
    read v.render = ⟨.ofJson v, false⟩ := by
  have text := tokens_render legible Delimited.nil
  have finished : tokens [] = [] := by rw [tokens]; rfl
  rw [List.append_nil, finished] at text
  have alone : v.depth + ([] : List Open).length ≤ depthLimit := shallow
  rw [read, text]
  exact assemble_tokensOf (.inl rfl) alone []

end ReplicaAtlas.Json
