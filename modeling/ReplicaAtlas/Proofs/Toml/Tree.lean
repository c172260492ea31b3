import Mathlib.Data.List.Nodup
import ReplicaAtlas.Toml.Tree

/-!
The tables of a TOML document whose keys have no dots and whose headers have one name each. Names that differ give their
table one entry each, in their order, and headers of array elements with one name add to one array.
-/
namespace ReplicaAtlas.Toml

namespace Items
variable {n : String} {entries : Items}

theorem lookUp_of_fresh (fresh : n ∉ entries.map (·.1)) : lookUp n entries = none := by
  induction entries with
  | nil => rfl
  | cons e entries ih =>
    rw [List.map_cons, List.mem_cons, not_or] at fresh
    rw [lookUp, if_neg (Ne.symm fresh.1), ih fresh.2]

theorem set_of_fresh (fresh : n ∉ entries.map (·.1)) (item : Item) : set n item entries = entries ++ [(n, item)] := by
  induction entries with
  | nil => rfl
  | cons e entries ih =>
    rw [List.map_cons, List.mem_cons, not_or] at fresh
    rw [set, if_neg (Ne.symm fresh.1), ih fresh.2]
    rfl

theorem lookUp_last (fresh : n ∉ entries.map (·.1)) (item : Item) : lookUp n (entries ++ [(n, item)]) = some item := by
  induction entries with
  | nil => exact if_pos rfl
  | cons e entries ih =>
    rw [List.map_cons, List.mem_cons, not_or] at fresh
    rw [List.cons_append, lookUp, if_neg (Ne.symm fresh.1), ih fresh.2]

theorem set_last (fresh : n ∉ entries.map (·.1)) (before item : Item) :
    set n item (entries ++ [(n, before)]) = entries ++ [(n, item)] := by
  induction entries with
  | nil => exact if_pos rfl
  | cons e entries ih =>
    rw [List.map_cons, List.mem_cons, not_or] at fresh
    rw [List.cons_append, set, if_neg (Ne.symm fresh.1), ih fresh.2]
    rfl

def ofValues (values : List (String × Document)) : Items := values.map fun v => (v.1, .value v.2)

def assignments (values : List (String × Document)) : List Assignment := values.map fun v => ⟨[], v.1, v.2⟩

theorem put_of_fresh (fresh : n ∉ entries.map (·.1)) (d : Document) :
    put [] n d .named entries = some (entries ++ [(n, .value d)]) := by
  have add : put [] n d .named entries =
      if (lookUp n entries).isSome then none else some (set n (.value d) entries) := rfl
  rw [add, lookUp_of_fresh fresh, set_of_fresh fresh]
  rfl

theorem putAll_of_nodup {values : List (String × Document)} (distinct : (values.map (·.1)).Nodup) :
    putAll (assignments values) [] = some (ofValues values) := by
  -- Each value is added behind the ones before it, so the induction is for any entries in front.
  suffices general : ∀ (entries : Items), (entries.map (·.1) ++ values.map (·.1)).Nodup →
      putAll (assignments values) entries = some (entries ++ ofValues values) from general [] distinct
  clear distinct
  induction values with
  | nil =>
    intro entries distinct
    exact congrArg some (List.append_nil entries).symm
  | cons v values ih =>
    intro entries distinct
    rw [List.map_cons] at distinct
    have fresh : v.1 ∉ entries.map (·.1) := fun old =>
      (List.nodup_middle.1 distinct).notMem (List.mem_append_left _ old)
    have others := ih (entries ++ [(v.1, .value v.2)]) (by
      rwa [List.map_append, List.map_singleton, List.append_assoc, List.singleton_append])
    rw [List.append_assoc] at others
    have here := put_of_fresh fresh v.2
    rw [putAll, assignments, List.map_cons, List.foldlM_cons, here]
    exact others

end Items

open Items

section Sections
variable {n : String} {entries : Items} (fresh : n ∉ entries.map (·.1))
  {values : List (String × Document)} (distinct : (values.map (·.1)).Nodup)
include fresh distinct

theorem addTo_table : (Section.mk [] n false (assignments values)).addTo entries =
    some (entries ++ [(n, .table .named (ofValues values))]) := by
  have add : (Section.mk [] n false (assignments values)).addTo entries = name n (assignments values) entries := rfl
  rw [add, name, lookUp_of_fresh fresh, putAll_of_nodup distinct]
  exact congrArg some (set_of_fresh fresh _)

theorem addTo_first : (Section.mk [] n true (assignments values)).addTo entries =
    some (entries ++ [(n, .tables [] (ofValues values))]) := by
  have add : (Section.mk [] n true (assignments values)).addTo entries = push n (assignments values) entries := rfl
  rw [add, push, lookUp_of_fresh fresh, putAll_of_nodup distinct]
  exact congrArg some (set_of_fresh fresh _)

theorem addTo_next (earlier : List Items) (last : Items) :
    (Section.mk [] n true (assignments values)).addTo (entries ++ [(n, .tables earlier last)]) =
      some (entries ++ [(n, .tables (earlier ++ [last]) (ofValues values))]) := by
  have add : (Section.mk [] n true (assignments values)).addTo (entries ++ [(n, .tables earlier last)]) =
      push n (assignments values) (entries ++ [(n, .tables earlier last)]) := rfl
  rw [add, push, lookUp_last fresh, putAll_of_nodup distinct]
  exact congrArg some (set_last fresh _ _)

end Sections

def tableSections (tables : List (String × List (String × Document))) : List Section :=
  tables.map fun t => ⟨[], t.1, false, assignments t.2⟩

def elementSections (n : String) (elements : List (List (String × Document))) : List Section :=
  elements.map fun values => ⟨[], n, true, assignments values⟩

def ofTables (tables : List (String × List (String × Document))) : Items :=
  tables.map fun t => (t.1, .table .named (ofValues t.2))

def addAll (sections : List Section) (entries : Items) : Option Items :=
  sections.foldlM (fun entries part => part.addTo entries) entries

theorem addAll_append (first second : List Section) (entries : Items) :
    addAll (first ++ second) entries = (addAll first entries).bind (addAll second) :=
  List.foldlM_append

theorem addAll_tables {tables : List (String × List (String × Document))} (entries : Items)
    (names : (entries.map (·.1) ++ tables.map (·.1)).Nodup) (distinct : ∀ t ∈ tables, (t.2.map (·.1)).Nodup) :
    addAll (tableSections tables) entries = some (entries ++ ofTables tables) := by
  induction tables generalizing entries with
  | nil => exact congrArg some (List.append_nil entries).symm
  | cons t tables ih =>
    obtain ⟨here, others⟩ := List.forall_mem_cons.1 distinct
    rw [List.map_cons] at names
    have fresh : t.1 ∉ entries.map (·.1) := fun old =>
      (List.nodup_middle.1 names).notMem (List.mem_append_left _ old)
    have after := ih (entries ++ [(t.1, .table .named (ofValues t.2))]) (by
      rwa [List.map_append, List.map_singleton, List.append_assoc, List.singleton_append]) others
    rw [List.append_assoc] at after
    rw [addAll, tableSections, List.map_cons, List.foldlM_cons, addTo_table fresh here]
    exact after

section Elements
variable {n : String} {entries : Items} (fresh : n ∉ entries.map (·.1))
  {elements : List (List (String × Document))} (distinct : ∀ values ∈ elements, (values.map (·.1)).Nodup)
include fresh distinct

theorem addAll_elements (earlier : List Items) (last : Items) :
    ∃ before final, addAll (elementSections n elements) (entries ++ [(n, .tables earlier last)]) =
        some (entries ++ [(n, .tables before final)]) ∧
      before ++ [final] = earlier ++ last :: elements.map ofValues := by
  induction elements generalizing earlier last with
  | nil => exact ⟨earlier, last, rfl, rfl⟩
  | cons values elements ih =>
    obtain ⟨here, others⟩ := List.forall_mem_cons.1 distinct
    obtain ⟨before, final, adds, same⟩ := ih others (earlier ++ [last]) (ofValues values)
    refine ⟨before, final, ?_, ?_⟩
    · rw [addAll, elementSections, List.map_cons, List.foldlM_cons, addTo_next fresh here]
      exact adds
    · rw [same, List.map_cons, List.append_assoc]
      rfl

theorem addAll_array (some : elements ≠ []) :
    ∃ before final, addAll (elementSections n elements) entries =
        Option.some (entries ++ [(n, .tables before final)]) ∧ before ++ [final] = elements.map ofValues := by
  cases elements with
  | nil => exact absurd rfl some
  | cons values elements =>
    obtain ⟨here, others⟩ := List.forall_mem_cons.1 distinct
    obtain ⟨before, final, adds, same⟩ := addAll_elements fresh others [] (ofValues values)
    refine ⟨before, final, ?_, same⟩
    rw [addAll, elementSections, List.map_cons, List.foldlM_cons, addTo_first fresh here]
    exact adds

end Elements

theorem members_ofValues (values : List (String × Document)) :
    members (ofValues values) = values.map fun v => (some v.1, v.2) := by
  induction values with
  | nil => rfl
  | cons v values ih =>
    rw [ofValues, List.map_cons, members, List.map_cons]
    exact congrArg _ ih

theorem members_append (first second : Items) : members (first ++ second) = members first ++ members second := by
  induction first with
  | nil => rfl
  | cons e first ih =>
    rw [List.cons_append, members, ih, members]
    rfl

theorem tableDocuments_eq (tables : List Items) : tableDocuments tables = tables.map fun t => .object (members t) := by
  induction tables with
  | nil => rfl
  | cons t tables ih =>
    rw [tableDocuments, ih]
    rfl

def record (values : List (String × Document)) : Document := .object (values.map fun v => (some v.1, v.2))

theorem object_members_ofValues (values : List (String × Document)) :
    .object (members (ofValues values)) = record values :=
  congrArg Document.object (members_ofValues values)

theorem members_ofTables (tables : List (String × List (String × Document))) :
    members (ofTables tables) = tables.map fun t => (some t.1, record t.2) := by
  induction tables with
  | nil => rfl
  | cons t tables ih =>
    rw [ofTables, List.map_cons, members, List.map_cons, Item.document, object_members_ofValues]
    exact congrArg _ ih

theorem document_tables {before : List Items} {final : Items} {elements : List (List (String × Document))}
    (same : before ++ [final] = elements.map ofValues) :
    (Item.tables before final).document = .array (elements.map record) false := by
  have each : elements.map record = (elements.map ofValues).map fun t => .object (members t) := by
    rw [List.map_map]
    exact List.map_congr_left fun values _ => (object_members_ofValues values).symm
  rw [Item.document, tableDocuments_eq, each, ← same, List.map_append]
  rfl

def arrayOf (n : String) (elements : List (List (String × Document))) : List (String × Document) :=
  if elements.isEmpty then [] else [(n, .array (elements.map record) false)]

/-- Values, then tables, then the elements of one array, all with names of their own, are a record of these parts. -/
theorem assemble_parts {top : List (String × Document)} {tables : List (String × List (String × Document))}
    {n : String} {elements : List (List (String × Document))}
    (names : (top.map (·.1) ++ tables.map (·.1) ++ (arrayOf n elements).map (·.1)).Nodup)
    (inTables : ∀ t ∈ tables, (t.2.map (·.1)).Nodup) (inElements : ∀ values ∈ elements, (values.map (·.1)).Nodup) :
    assemble (assignments top) (tableSections tables ++ elementSections n elements) =
      some (record (top ++ (tables.map fun t => (t.1, record t.2)) ++ arrayOf n elements)) := by
  rw [List.nodup_append] at names
  obtain ⟨first, -, apart⟩ := names
  have topAdds := putAll_of_nodup (List.nodup_append.1 first).1
  have topNames : (ofValues top).map (·.1) = top.map (·.1) := by
    rw [ofValues, List.map_map]
    rfl
  have tableNames : (ofTables tables).map (·.1) = tables.map (·.1) := by
    rw [ofTables, List.map_map]
    rfl
  have tablesAdd := addAll_tables (ofValues top) (topNames ▸ first) inTables
  have parts : members (ofValues top ++ ofTables tables) =
      (top ++ tables.map fun t => (t.1, record t.2)).map fun v => (some v.1, v.2) := by
    rw [members_append, members_ofValues, members_ofTables, List.map_append, List.map_map]
    rfl
  have assembled : assemble (assignments top) (tableSections tables ++ elementSections n elements) =
      (addAll (elementSections n elements) (ofValues top ++ ofTables tables)).bind fun entries =>
        some (.object (members entries)) := by
    change ((putAll (assignments top) []).bind fun entries =>
      (addAll (tableSections tables ++ elementSections n elements) entries).bind fun entries =>
        some (Document.object (members entries))) = _
    rw [topAdds, Option.bind_some, addAll_append, tablesAdd, Option.bind_some]
  rw [assembled]
  cases elements with
  | nil =>
    change some (Document.object (members (ofValues top ++ ofTables tables))) = _
    rw [parts, arrayOf, List.isEmpty_nil, if_pos rfl, List.append_nil]
    rfl
  | cons values elements =>
    have fresh : n ∉ (ofValues top ++ ofTables tables).map (·.1) := by
      rw [List.map_append, topNames, tableNames]
      exact fun old => apart n old n List.mem_cons_self rfl
    obtain ⟨before, final, adds, same⟩ := addAll_array fresh inElements (List.cons_ne_nil _ _)
    have array : members [(n, .tables before final)] =
        (arrayOf n (values :: elements)).map fun v => (some v.1, v.2) := by
      rw [members, document_tables same]
      rfl
    rw [adds, Option.bind_some, members_append, parts, array, ← List.map_append]
    rfl

end ReplicaAtlas.Toml
