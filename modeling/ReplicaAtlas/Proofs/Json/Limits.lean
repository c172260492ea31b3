import ReplicaAtlas.Proofs.Json.Reading

/-!
What can stand in the document of a text. Whatever the text is, a part of its document that has a value is as shallow
as its place in the document allows, and its whole numbers are words. The reader keeps this of everything that it has
read so far, whichever of its few moves it makes.
-/
namespace ReplicaAtlas

namespace Document
open Json

theorem mem_of_values? {items : List Document} {vs : List Json} (read : values? items = some vs) {v : Json}
    (member : v ∈ vs) : ∃ d ∈ items, d.value? = some v := by
  induction items generalizing vs with
  | nil =>
    cases read
    exact absurd member List.not_mem_nil
  | cons d rest ih =>
    simp only [values?, Option.bind_eq_bind, Option.bind_eq_some_iff, Option.pure_def, Option.some.injEq] at read
    obtain ⟨first, kept, others, restRead, rfl⟩ := read
    rcases List.mem_cons.1 member with rfl | later
    · exact ⟨d, List.mem_cons_self, kept⟩
    · obtain ⟨source, inRest, sourceKept⟩ := ih restRead later
      exact ⟨source, List.mem_cons_of_mem _ inRest, sourceKept⟩

theorem mem_of_membersValue? {members : List (Option String × Document)} {before after : List (String × Json)}
    (read : membersValue? members before = some after) {e : String × Json} (member : e ∈ after) :
    e ∈ before ∨ ∃ m ∈ members, m.2.value? = some e.2 := by
  induction members generalizing before with
  | nil =>
    cases read
    exact .inl member
  | cons m rest ih =>
    obtain ⟨_ | name, d⟩ := m
    · cases read
    · simp only [membersValue?, Option.bind_eq_bind, Option.bind_eq_some_iff] at read
      obtain ⟨v, kept, restRead⟩ := read
      rcases ih restRead with old | ⟨later, inRest, laterKept⟩
      · rcases Entries.mem_put old with rfl | old
        · exact .inr ⟨_, List.mem_cons_self, kept⟩
        · exact .inl old
      · exact .inr ⟨later, List.mem_cons_of_mem _ inRest, laterKept⟩

theorem values?_eq_none {items : List Document} {d : Document} (member : d ∈ items) (valueless : d.value? = none) :
    values? items = none := by
  induction items with
  | nil => exact absurd member List.not_mem_nil
  | cons first rest ih =>
    rw [values?]
    rcases List.mem_cons.1 member with rfl | later
    · rw [valueless]
      rfl
    · rw [ih later]
      cases first.value? <;> rfl

theorem membersValue?_eq_none {members : List (Option String × Document)} {m : Option String × Document}
    (member : m ∈ members) (valueless : m.2.value? = none) (before : List (String × Json)) :
    membersValue? members before = none := by
  induction members generalizing before with
  | nil => exact absurd member List.not_mem_nil
  | cons first rest ih =>
    obtain ⟨_ | name, d⟩ := first
    · rfl
    · rw [membersValue?]
      rcases List.mem_cons.1 member with rfl | later
      · rw [valueless]
        rfl
      · cases d.value? with
        | none => rfl
        | some v => exact ih later _

/-- A document has no value if one of its parts has none. -/
theorem value?_eq_none {d part : Document} (member : part ∈ d.children) (valueless : part.value? = none) :
    d.value? = none := by
  cases d with
  | array items closed =>
    have none : values? items = none := values?_eq_none member valueless
    rw [value?, none, Option.map_none]
  | object members =>
    obtain ⟨m, among, rfl⟩ := List.mem_map.1 member
    rw [value?, membersValue?_eq_none among valueless, Option.map_none]
  | _ => exact absurd member List.not_mem_nil

/-- The document stands so many levels below the whole, and all its parts that have a value fit into what is left. -/
def Bounded (level : Nat) (d : Document) : Prop :=
  ∀ lower part v, Below part lower d → part.value? = some v → v.Within (depthLimit - (level + lower))

theorem Bounded.of_parts {level : Nat} {d : Document} (own : ∀ v, d.value? = some v → v.Within (depthLimit - level))
    (parts : ∀ child ∈ d.children, Bounded (level + 1) child) : Bounded level d := by
  intro lower part v below kept
  cases below with
  | here => exact own v kept
  | inside member below =>
    have inside := parts _ member _ part v below kept
    rwa [Nat.add_assoc, Nat.add_comm 1] at inside

theorem Bounded.of_no_parts {level : Nat} {d : Document} (alone : d.children = [])
    (own : ∀ v, d.value? = some v → v.Within (depthLimit - level)) : Bounded level d :=
  .of_parts own fun _ member => absurd (alone ▸ member) List.not_mem_nil

end Document

namespace Json
open Document

def Open.parts : Open → List Document
  | .array items => items
  | .object members _ => members.map (·.2)

theorem Open.parts_add (container : Open) (d : Document) : (container.add d).parts = d :: container.parts := by
  cases container <;> rfl

theorem Open.mem_children_close {container : Open} {d : Document} :
    d ∈ container.close.children ↔ d ∈ container.parts := by
  cases container with
  | array items => exact List.mem_reverse
  | object members name =>
    change d ∈ members.reverse.map (·.2) ↔ d ∈ members.map (·.2)
    rw [List.map_reverse, List.mem_reverse]

theorem Open.within_close {container : Open} {levels : Nat}
    (inside : ∀ part ∈ container.parts, ∀ v, part.value? = some v → v.Within levels) {v : Json}
    (kept : container.close.value? = some v) : v.Within (levels + 1) := by
  cases container with
  | array items =>
    obtain ⟨vs, read, rfl⟩ := Option.map_eq_some_iff.1 kept
    refine within_array_iff.2 fun w member => ?_
    obtain ⟨part, among, kept⟩ := mem_of_values? read member
    exact inside part (List.mem_reverse.1 among) w kept
  | object members name =>
    obtain ⟨ms, read, rfl⟩ := Option.map_eq_some_iff.1 kept
    refine within_object_iff.2 fun e member => ?_
    rcases mem_of_membersValue? read member with absent | ⟨m, among, kept⟩
    · exact absurd absent List.not_mem_nil
    · exact inside m.2 (List.mem_map.2 ⟨m, List.mem_reverse.1 among, rfl⟩) e.2 kept

/-- What stands in the open containers so far is bounded by its place. -/
inductive Sound : List Open → Prop where
  | nil : Sound []
  | cons {container : Open} {outer : List Open}
      (inside : ∀ part ∈ container.parts, Bounded (outer.length + 1) part) (around : Sound outer) :
      Sound (container :: outer)

theorem Sound.add {container : Open} {outer : List Open} (sound : Sound (container :: outer)) {d : Document}
    (bounded : Bounded (outer.length + 1) d) : Sound (container.add d :: outer) := by
  cases sound with
  | cons inside around =>
    refine .cons (fun part member => ?_) around
    rw [Open.parts_add] at member
    rcases List.mem_cons.1 member with rfl | old
    · exact bounded
    · exact inside part old

theorem Sound.bounded_closed {container : Open} {outer : List Open} (sound : Sound (container :: outer)) :
    Bounded outer.length (closed container outer) := by
  cases sound with
  | cons inside around =>
    by_cases shallow : outer.length < depthLimit
    · rw [closed_eq_close shallow]
      refine .of_parts (fun v kept => ?_) fun child member => inside child (Open.mem_children_close.1 member)
      have levels : depthLimit - outer.length = depthLimit - (outer.length + 1 + 0) + 1 := by omega
      rw [levels]
      exact Open.within_close (fun part member v kept => inside part member 0 part v .here kept) kept
    · have nested : (outer.drop (depthLimit - 1)).length ≠ 0 := by
        have positive : 0 < depthLimit := by decide
        rw [List.length_drop]
        omega
      rw [closed, if_neg fun none => nested (List.isEmpty_iff_length_eq_zero.1 none)]
      exact .of_no_parts rfl nofun

/-- A text that breaks off has no value, but the parts that were read before are kept as they are. -/
theorem Sound.bounded_breakOff {stack : List Open} (sound : Sound stack) : Bounded 0 (breakOff stack).document := by
  -- The innermost container ends in a part without a value, so no container around it has one.
  have broken {inner : Document} (valueless : inner.value? = none) (bounded : Bounded stack.length inner) :
      Bounded 0 (stack.foldl (fun inner container => (container.add inner).close) inner) := by
    induction sound generalizing inner with
    | nil => exact bounded
    | @cons container outer inside around ih =>
      have among : inner ∈ (container.add inner).close.children :=
        Open.mem_children_close.2 (Open.parts_add container inner ▸ List.mem_cons_self)
      have none := value?_eq_none among valueless
      refine ih none (.of_parts (by rw [none]; exact nofun) fun child member => ?_)
      rw [Open.mem_children_close, Open.parts_add] at member
      rcases List.mem_cons.1 member with rfl | old
      · exact bounded
      · exact inside child old
  exact broken rfl (.of_no_parts rfl nofun)

inductive Move (token : Token) (rest : List Token) (stack : List Open) : Reading → Prop where
  | breaks : Move token rest stack (breakOff stack)
  | alone {d : Document} (plain : d.children = []) (meaning : ∀ v, d.value? = some v → tokensOf v = [token]) :
      Move token rest stack (deliver d rest stack)
  | opens {container : Open} {place : Place} (empty : container.parts = []) :
      Move token rest stack (assemble rest place (container :: stack))
  | closes {container : Open} {outer : List Open} (innermost : stack = container :: outer) :
      Move token rest stack (deliver (closed container outer) rest outer)
  | names {members : List (Option String × Document)} {before after : Option String} {outer : List Open}
      {place : Place} (innermost : stack = .object members before :: outer) :
      Move token rest stack (assemble rest place (.object members after :: outer))
  | passes {place : Place} : Move token rest stack (assemble rest place stack)

theorem move (token : Token) (rest : List Token) (place : Place) (stack : List Open) :
    Move token rest stack (assemble (token :: rest) place stack) := by
  cases token with
  | leftBrace => cases place <;> first | exact .breaks | exact .opens rfl
  | leftBracket => cases place <;> first | exact .breaks | exact .opens rfl
  | rightBrace => rcases stack with _ | ⟨_ | _, outer⟩ <;> cases place <;> first | exact .breaks | exact .closes rfl
  | rightBracket => rcases stack with _ | ⟨_ | _, outer⟩ <;> cases place <;> first | exact .breaks | exact .closes rfl
  | colon => cases place <;> first | exact .breaks | exact .passes
  | comma => rcases stack with _ | ⟨_ | _, outer⟩ <;> cases place <;> first | exact .breaks | exact .passes
  | null => cases place <;> first | exact .breaks | exact .alone rfl (by rintro _ ⟨⟩; rfl)
  | bool b => cases place <;> first | exact .breaks | exact .alone rfl (by rintro _ ⟨⟩; rfl)
  | number n => cases place <;> first | exact .breaks | exact .alone rfl (by rintro _ ⟨⟩; rfl)
  | farNumber => cases place <;> first | exact .breaks | exact .alone rfl nofun
  | text s =>
    rcases stack with _ | ⟨_ | _, outer⟩ <;> cases place <;>
      first | exact .breaks | exact .alone rfl (by rintro _ ⟨⟩; rfl) | exact .names rfl
  | unpairedText =>
    rcases stack with _ | ⟨_ | _, outer⟩ <;> cases place <;>
      first | exact .breaks | exact .alone rfl nofun | exact .names rfl
  | junk => exact .breaks

theorem within_of_tokensOf {v : Json} {token : Token} (alone : tokensOf v = [token]) {levels : Nat}
    (whole : ∀ n, token = .number (.int n) → IsWord n) : v.Within levels := by
  cases v with
  | null => exact within_null
  | bool b => exact within_bool b
  | text s => exact within_text s
  | number n =>
    cases n with
    | int n => exact within_int (whole n (List.cons.inj alone).1.symm)
    | float x => exact within_float x
  | array items =>
    rw [tokensOf, List.cons.injEq] at alone
    exact absurd alone.2 (List.append_ne_nil_of_right_ne_nil _ (List.cons_ne_nil _ _))
  | object members =>
    rw [tokensOf, List.cons.injEq] at alone
    exact absurd alone.2 (List.append_ne_nil_of_right_ne_nil _ (List.cons_ne_nil _ _))

theorem bounded_assemble {ts : List Token} (whole : ∀ n, .number (.int n) ∈ ts → IsWord n)
    {place : Place} {stack : List Open} (sound : Sound stack) : Bounded 0 (assemble ts place stack).document := by
  induction ts generalizing place stack with
  | nil => exact sound.bounded_breakOff
  | cons token rest ih =>
    have onward {place : Place} {stack : List Open} (sound : Sound stack) :
        Bounded 0 (assemble rest place stack).document :=
      ih (fun n later => whole n (List.mem_cons_of_mem _ later)) sound
    have delivered {d : Document} {around : List Open} (sound : Sound around) (bounded : Bounded around.length d) :
        Bounded 0 (deliver d rest around).document := by
      cases around with
      | nil => exact bounded
      | cons container outer => exact onward (sound.add bounded)
    have moves := move token rest place stack
    generalize assemble (token :: rest) place stack = reading at moves ⊢
    cases moves with
    | breaks => exact sound.bounded_breakOff
    | alone plain meaning =>
      refine delivered sound (.of_no_parts plain fun v kept => ?_)
      exact within_of_tokensOf (meaning v kept) fun n same => whole n (same ▸ List.mem_cons_self)
    | opens empty => exact onward (.cons (fun part member => absurd (empty ▸ member) List.not_mem_nil) sound)
    | closes innermost =>
      subst innermost
      cases sound with
      | cons inside around => exact delivered around (Sound.cons inside around).bounded_closed
    | names innermost =>
      subst innermost
      cases sound with
      | cons inside around => exact onward (.cons inside around)
    | passes => exact onward sound

/-- Every part of the document of a text is bounded by its place. -/
theorem bounded_read (text : String) : Bounded 0 (read text).document :=
  bounded_assemble (fun _ => isWord_of_mem_tokens) .nil

end Json

end ReplicaAtlas
