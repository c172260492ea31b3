import ReplicaAtlas.Json.Document

/-!
The tables of a TOML document. A table comes about in one of three ways: named by a header, implied by a
longer header, or by the dots of a key. Each way allows certain additions, and a document that adds
anything else, or gives a name two values, has no meaning.
-/
namespace ReplicaAtlas.Toml

inductive Origin where
  | named
  | implied
  | dotted
  deriving DecidableEq, BEq, Repr

inductive Item where
  | value (document : Document)
  | table (origin : Origin) (entries : List (String × Item))
  /-- An array of named tables, with the last one apart. -/
  | tables (earlier : List (List (String × Item))) (last : List (String × Item))

abbrev Items := List (String × Item)

namespace Items

def lookUp (name : String) : Items → Option Item
  | [] => none
  | (n, item) :: rest => if n = name then some item else lookUp name rest

def set (name : String) (item : Item) : Items → Items
  | [] => [(name, item)]
  | (n, i) :: rest => if n = name then (n, item) :: rest else (n, i) :: set name item rest

/-- Change the table at the end of a path. The tables on the way are created as they are missing; dots of a
key do not lead into named tables, and no path leads into a value. -/
def alter (dots : Bool) (change : Origin → Items → Option Items) :
    List String → Origin → Items → Option Items
  | [], origin, entries => change origin entries
  | name :: path, _, entries =>
    match lookUp name entries with
    | none => do
      let origin := if dots then Origin.dotted else .implied
      return set name (.table origin (← alter dots change path origin [])) entries
    | some (.table origin inner) =>
      if dots && origin = .named then none
      else do return set name (.table origin (← alter dots change path origin inner)) entries
    | some (.tables earlier last) => do
      return set name (.tables earlier (← alter dots change path .named last)) entries
    | some (.value _) => none

/-- Give the last name of a key a value. Only a key with dots adds to a table that came about by dots. -/
def put (path : List String) (name : String) (value : Document) : Origin → Items → Option Items :=
  alter true (fun origin entries =>
    if (origin == .dotted) == path.isEmpty then none
    else if (lookUp name entries).isSome then none
    else some (set name (.value value) entries)) path

structure Assignment where
  path : List String
  name : String
  value : Document

def putAll (assignments : List Assignment) (entries : Items) : Option Items :=
  assignments.foldlM (fun entries a => put a.path a.name a.value .named entries) entries

/-- A table that a header names, which at most was implied before. -/
def name (name : String) (assignments : List Assignment) (entries : Items) : Option Items :=
  match lookUp name entries with
  | none => do return set name (.table .named (← putAll assignments [])) entries
  | some (.table .implied inner) => do return set name (.table .named (← putAll assignments inner)) entries
  | some _ => none

def push (name : String) (assignments : List Assignment) (entries : Items) : Option Items :=
  match lookUp name entries with
  | none => do return set name (.tables [] (← putAll assignments [])) entries
  | some (.tables earlier last) => do
    return set name (.tables (earlier ++ [last]) (← putAll assignments [])) entries
  | some _ => none

end Items

mutual

def Item.document : Item → Document
  | .value d => d
  | .table _ entries => .object (members entries)
  | .tables earlier last => .array (tableDocuments earlier ++ [.object (members last)]) false

def members : List (String × Item) → List (Option String × Document)
  | [] => []
  | (name, item) :: rest => (some name, item.document) :: members rest

def tableDocuments : List (List (String × Item)) → List Document
  | [] => []
  | entries :: rest => .object (members entries) :: tableDocuments rest

end

/-- A table in braces, which nothing can be added to later. -/
def inlineTable (assignments : List Items.Assignment) : Option Document :=
  (Items.putAll assignments []).map fun entries => .object (members entries)

structure Section where
  path : List String
  name : String
  isElement : Bool
  assignments : List Items.Assignment

def Section.addTo (part : Section) (entries : Items) : Option Items :=
  let change := if part.isElement then Items.push else Items.name
  entries.alter false (fun _ => change part.name part.assignments) part.path .named

def assemble (top : List Items.Assignment) (sections : List Section) : Option Document := do
  let entries ← Items.putAll top []
  let entries ← sections.foldlM (fun entries part => part.addTo entries) entries
  return .object (members entries)

end ReplicaAtlas.Toml
