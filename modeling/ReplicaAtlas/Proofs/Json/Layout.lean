import Mathlib.Data.List.Nodup
import ReplicaAtlas.Json.Decode
import ReplicaAtlas.Proofs.Json.Values
import ReplicaAtlas.Proofs.Success
import ReplicaAtlas.Proofs.Table.LastWrite

/-!
What records have of the documents that they are decoded from, and what a decoder reads of the value that was written
for a record. A record is what its fields read of the parts of its document, one after the other, so what each of them
keeps holds of the record. An object with all fields of a layout in their order is read as the array of their values.
-/
namespace ReplicaAtlas

namespace Document

theorem ofJson_ne_null {v : Json} (present : v ≠ .null) : ofJson v ≠ .null := by
  cases v with
  | null => exact absurd rfl present
  | _ => exact nofun

theorem eq_null_of_value? {d : Document} (kept : d.value? = some .null) : d = .null := by
  cases d with
  | null => rfl
  | array items closed =>
    obtain ⟨_, _, ⟨⟩⟩ := Option.map_eq_some_iff.1 kept
  | object members =>
    obtain ⟨_, _, ⟨⟩⟩ := Option.map_eq_some_iff.1 kept
  | _ => cases kept

def children : Document → List Document
  | .array items _ => items
  | .object members => members.map (·.2)
  | _ => []

inductive Below (part : Document) : Nat → Document → Prop where
  | here : Below part 0 part
  | inside {level : Nat} {child d : Document} (member : child ∈ d.children) (below : Below part level child) :
      Below part (level + 1) d

theorem Below.of_below {part middle d : Document} {lower upper : Nat} (below : Below part lower middle)
    (above : Below middle upper d) : Below part (lower + upper) d := by
  induction above with
  | here => exact below
  | inside member _ ih => exact .inside member ih

end Document

def Decoder.ReadsBack {α : Type} (decode : Decoder α) (encode : α → Json) (a : α) : Prop :=
  decode (.ofJson (encode a)) = .ok a

namespace Decoder
variable {α : Type} {decode : Decoder α} {encode : α → Json}

theorem readsBack_text (s : String) : text.ReadsBack .text s := rfl

theorem readsBack_bool (b : Bool) : bool.ReadsBack .bool b := rfl

theorem readsBack_float (x : Float) : float.ReadsBack .float x := rfl

theorem natural_of_lt {bits n : Nat} (fits : n < Nat.pow 2 bits) : natural bits (.ofJson (.nat n)) = .ok n :=
  if_pos ⟨Int.natCast_nonneg n, Int.ofNat_lt.2 fits⟩

theorem readsBack_word (n : UInt32) : word.ReadsBack .word n := by
  rw [ReadsBack, word, Json.word, natural_of_lt n.toNat_lt]
  exact congrArg _ UInt32.ofNat_toNat

theorem readsBack_wide (n : UInt64) : wide.ReadsBack .wide n := by
  rw [ReadsBack, wide, Json.wide, natural_of_lt n.toNat_lt]
  exact congrArg _ UInt64.ofNat_toNat

theorem optional_of_ne_null {d : Document} (present : d ≠ .null) : optional decode d = (decode d).map some := by
  cases d with
  | null => exact absurd rfl present
  | _ => rfl

theorem optionalJson_of_ne_null {d : Document} (present : d ≠ .null) : optionalJson d = d.keep.map some := by
  cases d with
  | null => exact absurd rfl present
  | _ => rfl

theorem readsBack_optional {a : Option α} (each : ∀ b ∈ a, decode.ReadsBack encode b)
    (present : ∀ b ∈ a, encode b ≠ .null) : (optional decode).ReadsBack (Json.option encode) a := by
  cases a with
  | none => rfl
  | some b =>
    have read : decode (.ofJson (encode b)) = .ok b := each b rfl
    rw [ReadsBack, Json.option, optional_of_ne_null (Document.ofJson_ne_null (present b rfl)), read]
    rfl

theorem readsBack_optionalJson {v : Option Json} (noNull : v ≠ some .null) (ordered : ∀ w ∈ v, w.Ordered) :
    optionalJson.ReadsBack (·.getD .null) v := by
  cases v with
  | none => rfl
  | some w =>
    have present : w ≠ .null := fun null => noNull (congrArg some null)
    rw [ReadsBack, Option.getD_some, optionalJson_of_ne_null (Document.ofJson_ne_null present), Document.keep,
      Document.value?_ofJson (ordered w rfl)]
    rfl

theorem value?_of_optionalJson {d : Document} {v : Json} (decoded : optionalJson d = .ok (some v)) :
    d.value? = some v ∧ v ≠ .null := by
  have present : d ≠ .null := by
    rintro rfl
    cases decoded
  rw [optionalJson_of_ne_null present, map_ok_iff] at decoded
  obtain ⟨w, kept, ⟨⟩⟩ := decoded
  rw [Document.keep] at kept
  split at kept
  case h_1 found =>
    cases kept
    refine ⟨found, ?_⟩
    rintro rfl
    exact present (Document.eq_null_of_value? found)
  case h_2 => cases kept

theorem mem_of_items {ds : List Document} {as : List α} (decoded : items decode ds = .ok as) {a : α}
    (member : a ∈ as) : ∃ d ∈ ds, decode d = .ok a := by
  induction ds generalizing as with
  | nil =>
    cases decoded
    exact absurd member List.not_mem_nil
  | cons d rest ih =>
    simp only [items, bind_ok_iff, pure, Except.pure, Except.ok.injEq] at decoded
    obtain ⟨first, firstDecoded, others, othersDecoded, rfl⟩ := decoded
    rcases List.mem_cons.1 member with rfl | later
    · exact ⟨d, List.mem_cons_self, firstDecoded⟩
    · obtain ⟨source, inRest, sourceDecoded⟩ := ih othersDecoded later
      exact ⟨source, List.mem_cons_of_mem _ inRest, sourceDecoded⟩

theorem mem_of_list {d : Document} {as : List α} (decoded : list decode d = .ok as) {a : α} (member : a ∈ as) :
    ∃ child ∈ d.children, decode child = .ok a := by
  cases d with
  | array ds closed => exact mem_of_items decoded member
  | _ => cases decoded

theorem readsBack_list {as : List α} (each : ∀ a ∈ as, decode.ReadsBack encode a) :
    (list decode).ReadsBack (Json.list encode) as := by
  change items decode (Document.ofItems (as.map encode)) = .ok as
  induction as with
  | nil => rfl
  | cons a rest ih =>
    have read : decode (.ofJson (encode a)) = .ok a := each a List.mem_cons_self
    have others := ih fun other member => each other (List.mem_cons_of_mem _ member)
    rw [List.map_cons, Document.ofItems, items, read, others]
    rfl

theorem members_of_ascending (table : Table α) {entries : List (String × α)}
    (ascending : Entries.Ascending (table.entries ++ entries)) (each : ∀ e ∈ entries, decode.ReadsBack encode e.2) :
    ∃ whole, members decode (Document.ofMembers (entries.map fun e => (e.1, encode e.2))) table = .ok whole ∧
      whole.entries = table.entries ++ entries := by
  induction entries generalizing table with
  | nil => exact ⟨table, rfl, (List.append_nil _).symm⟩
  | cons e rest ih =>
    obtain ⟨name, a⟩ := e
    have next : (table.insert name a).entries = table.entries ++ [(name, a)] := ascending.put_next
    have read : decode (.ofJson (encode a)) = .ok a := each (name, a) List.mem_cons_self
    rw [List.append_cons, ← next] at ascending
    obtain ⟨whole, others, entries⟩ := ih _ ascending fun other member => each other (List.mem_cons_of_mem _ member)
    refine ⟨whole, ?_, ?_⟩
    · rw [List.map_cons, Document.ofMembers, members, read]
      exact others
    · rw [entries, next, ← List.append_cons]

theorem readsBack_table {t : Table α} (each : ∀ e ∈ t.entries, decode.ReadsBack encode e.2) :
    (table decode).ReadsBack (Json.table encode) t := by
  obtain ⟨whole, read, entries⟩ := members_of_ascending .empty t.ascending each
  obtain rfl : whole = t := Table.eq_of_entries entries
  exact read

end Decoder

namespace Layout
variable {ρ : Type} {layout : Layout ρ}

section Keeping
variable {Holds : ρ → Prop} {parts : List Document}
  (keeps : ∀ field ∈ layout.fields, ∀ part ∈ parts, ∀ before after, Holds before → field.read part before = .ok after →
    Holds after)
include keeps

theorem readMembers_keeps {members : List (Option String × Document)} (inside : ∀ m ∈ members, m.2 ∈ parts)
    {seen read : List String} {before after : ρ} (holds : Holds before)
    (decoded : layout.readMembers members seen before = .ok (read, after)) : Holds after := by
  induction members generalizing seen before with
  | nil =>
    cases decoded
    exact holds
  | cons m rest ih =>
    have restInside (other) (member : other ∈ rest) := inside other (List.mem_cons_of_mem _ member)
    obtain ⟨_ | name, d⟩ := m
    · cases decoded
    · rw [readMembers] at decoded
      split at decoded
      case h_1 =>
        obtain ⟨-, -, others⟩ := bind_ok_iff.1 decoded
        exact ih restInside holds others
      case h_2 field found =>
        split at decoded
        · cases decoded
        · obtain ⟨middle, readHere, others⟩ := bind_ok_iff.1 decoded
          have known := List.mem_of_find?_eq_some found
          exact ih restInside (keeps field known d (inside _ List.mem_cons_self) before middle holds readHere) others

theorem readItems_keeps {fields : List (Field ρ)} (known : ∀ field ∈ fields, field ∈ layout.fields)
    {ds : List Document} (inside : ∀ d ∈ ds, d ∈ parts) {closed : Bool} {before after : ρ} (holds : Holds before)
    (decoded : readItems fields ds closed before = .ok after) : Holds after := by
  induction fields generalizing ds before with
  | nil =>
    have same : before = after := by
      cases ds with
      | nil => exact Except.ok.inj decoded
      | cons d rest =>
        cases closed with
        | true => cases decoded
        | false => exact Except.ok.inj decoded
    exact same ▸ holds
  | cons field fields ih =>
    cases ds with
    | nil =>
      rw [readItems] at decoded
      split at decoded
      · cases decoded
      · cases decoded
        exact holds
    | cons d rest =>
      obtain ⟨middle, readHere, others⟩ := bind_ok_iff.1 decoded
      have kept := keeps field (known _ List.mem_cons_self) d (inside _ List.mem_cons_self) _ _ holds readHere
      exact ih (fun other member => known other (List.mem_cons_of_mem _ member))
        (fun other member => inside other (List.mem_cons_of_mem _ member)) kept others

end Keeping

theorem decode_keeps (Holds : ρ → Prop) {d : Document} {r : ρ} (blank : Holds layout.blank)
    (keeps : ∀ field ∈ layout.fields, ∀ part ∈ d.children, ∀ before after, Holds before →
      field.read part before = .ok after → Holds after) (decoded : layout.decode d = .ok r) : Holds r := by
  cases d with
  | array ds closed => exact readItems_keeps keeps (fun _ known => known) (fun _ member => member) blank decoded
  | object ms =>
    obtain ⟨⟨seen, read⟩, members, complete⟩ := bind_ok_iff.1 decoded
    have same : read = r := by
      dsimp only at complete
      split at complete
      · exact Except.ok.inj complete
      · cases complete
    have inside (m) (member : m ∈ ms) : m.2 ∈ (Document.object ms).children := List.mem_map.2 ⟨m, member, rfl⟩
    exact same ▸ readMembers_keeps keeps inside blank members
  | _ => cases decoded

/-- What a record lists is decoded of the items of a part, if one of its fields reads the list and no other one
changes it. -/
theorem mem_of_decode {α : Type} {inner : Decoder α} (list : ρ → List α) (blank : list layout.blank = [])
    (reads : ∀ field ∈ layout.fields, ∀ part before after, field.read part before = .ok after →
      list after = list before ∨ Decoder.list inner part = .ok (list after)) {d : Document} {r : ρ}
    (decoded : layout.decode d = .ok r) : ∀ a ∈ list r, ∃ part, part.Below 2 d ∧ inner part = .ok a := by
  refine decode_keeps (fun r => ∀ a ∈ list r, ∃ part, part.Below 2 d ∧ inner part = .ok a)
    (fun _ absent => absurd (blank ▸ absent) List.not_mem_nil)
    (fun field known part member before after holds read => ?_) decoded
  rcases reads field known part before after read with same | new
  · exact same ▸ holds
  · intro a among
    obtain ⟨child, inside, decoded⟩ := Decoder.mem_of_list new among
    exact ⟨child, .inside member (.inside inside .here), decoded⟩

theorem find?_of_split {before fields : List (Field ρ)} {field : Field ρ}
    (distinct : ((before ++ field :: fields).map (·.name)).Nodup) :
    (before ++ field :: fields).find? (·.name = field.name) = some field := by
  rw [List.map_append, List.map_cons] at distinct
  have fresh := (List.nodup_middle.1 distinct).notMem
  rw [List.find?_append, List.find?_cons_of_pos (by simp), Option.or_eq_some_iff]
  refine .inr ⟨List.find?_eq_none.2 fun other member => ?_, rfl⟩
  rw [decide_eq_true_iff]
  intro same
  exact fresh (List.mem_append_left _ (List.mem_map.2 ⟨other, member, same⟩))

theorem readMembers_of_fields (before : List (Field ρ)) {fields : List (Field ρ)}
    (split : layout.fields = before ++ fields) (distinct : (layout.fields.map (·.name)).Nodup) {values : List Json}
    (each : values.length = fields.length) (seen : List String)
    (read : ∀ name ∈ seen, name ∈ before.map (·.name)) (r : ρ) :
    layout.readMembers (Document.ofMembers ((fields.map (·.name)).zip values)) seen r =
      (readItems fields (Document.ofItems values) true r).map fun r => ((fields.map (·.name)).reverse ++ seen, r) := by
  induction fields generalizing before values seen r with
  | nil =>
    obtain rfl : values = [] := List.eq_nil_of_length_eq_zero each
    rfl
  | cons field fields ih =>
    obtain ⟨v, values, rfl⟩ := List.exists_cons_of_length_eq_add_one each
    have found : layout.fields.find? (·.name = field.name) = some field := by
      rw [split] at distinct ⊢
      exact find?_of_split distinct
    have unread : field.name ∉ seen := by
      intro old
      rw [split, List.map_append, List.map_cons] at distinct
      exact (List.nodup_middle.1 distinct).notMem (List.mem_append_left _ (read _ old))
    have readNow : ∀ name ∈ field.name :: seen, name ∈ (before ++ [field]).map (·.name) := by
      intro name old
      rw [List.map_append, List.mem_append]
      rcases List.mem_cons.1 old with rfl | old
      · exact .inr List.mem_cons_self
      · exact .inl (read name old)
    have others := ih (before ++ [field]) (split.trans (List.append_cons ..)) (Nat.succ.inj each) _ readNow
    rw [List.map_cons, List.zip_cons_cons, Document.ofMembers, readMembers, found, Document.ofItems, readItems]
    dsimp only
    rw [if_neg unread]
    cases field.read (.ofJson v) r with
    | error fault => rfl
    | ok after =>
      change layout.readMembers _ _ after = (readItems fields (Document.ofItems values) true after).map _
      rw [others, List.reverse_cons, List.append_assoc]
      rfl

theorem readsBack_of_fields {encode : ρ → Json} {r : ρ} (values : List Json)
    (written : encode r = .object ((layout.fields.map (·.name)).zip values))
    (distinct : (layout.fields.map (·.name)).Nodup) (each : values.length = layout.fields.length)
    (read : readItems layout.fields (Document.ofItems values) true layout.blank = .ok r) :
    layout.decode.ReadsBack encode r := by
  have members := readMembers_of_fields [] rfl distinct each [] (fun _ => id) layout.blank
  rw [Decoder.ReadsBack, written, Document.ofJson, decode, members, read]
  refine if_pos (List.all_eq_true.2 fun field member => ?_)
  rw [List.append_nil, Bool.or_eq_true]
  exact .inr (List.contains_iff_mem.2 (List.mem_reverse.2 (List.mem_map.2 ⟨field, member, rfl⟩)))

theorem readItems_cons {α : Type} {name : String} {required : Bool} {decode : Decoder α} {set : α → ρ → ρ}
    {encode : α → Json} {a : α} {fields : List (Field ρ)} {ds : List Document} {closed : Bool} {before after : ρ}
    (reads : decode.ReadsBack encode a) (others : readItems fields ds closed (set a before) = .ok after) :
    readItems (.ofDecoder name required decode set :: fields) (.ofJson (encode a) :: ds) closed before =
      .ok after := by
  have here : (Field.ofDecoder name required decode set).read (.ofJson (encode a)) before = .ok (set a before) :=
    map_ok_iff.2 ⟨a, reads, rfl⟩
  rw [readItems, here]
  exact others

theorem readMembers_cons {field : Field ρ} {name : String} {d : Document} {before after : ρ} {seen : List String}
    (found : layout.fields.find? (·.name = name) = some field) (unseen : name ∉ seen)
    (reads : field.read d before = .ok after) (rest : List (Option String × Document)) :
    layout.readMembers ((some name, d) :: rest) seen before = layout.readMembers rest (name :: seen) after := by
  rw [readMembers, found]
  dsimp only
  rw [if_neg unseen, reads]
  rfl

theorem read_ofDecoder {α : Type} {decode : Decoder α} {d : Document} {a : α} (reads : decode d = .ok a) (name : String)
    (required : Bool) (set : α → ρ → ρ) (before : ρ) :
    (Field.ofDecoder name required decode set).read d before = .ok (set a before) :=
  map_ok_iff.2 ⟨a, reads, rfl⟩

theorem decode_of_members {members : List (Option String × Document)} (seen : List String) {r : ρ}
    (reads : layout.readMembers members [] layout.blank = .ok (seen, r))
    (complete : ∀ field ∈ layout.fields, field.required = true → field.name ∈ seen) :
    layout.decode (.object members) = .ok r := by
  rw [decode, reads]
  refine if_pos (List.all_eq_true.2 fun field member => ?_)
  cases required : field.required with
  | false => rfl
  | true => exact List.contains_iff_mem.2 (complete field member required)

end Layout

end ReplicaAtlas
