import ReplicaAtlas.Http.Target
import Mathlib.Data.List.TakeWhile

/-!
What a target keeps of the text it is read from. A path that begins with a slash stays as it is written, together
with its query; what follows a number sign is left out.
-/
namespace ReplicaAtlas.Http.Target

def isInPath (c : Char) : Bool := c != '?' && c != '#'

theorem drop_path (cs : List Char) : cs.drop (cs.takeWhile isInPath).length = cs.dropWhile isInPath := by
  apply (List.append_right_inj (cs.takeWhile isInPath)).1
  rw [List.takeWhile_append_dropWhile]
  exact List.prefix_iff_eq_append.1 (List.takeWhile_prefix isInPath)

/-- The text up to a number sign is the path, and then what is left of the rest. -/
theorem takeWhile_eq_path_append (cs : List Char) :
    cs.takeWhile (· != '#') = cs.takeWhile isInPath ++ (cs.dropWhile isInPath).takeWhile (· != '#') := by
  have unmarked : ∀ c ∈ cs.takeWhile isInPath, (c != '#') = true := by
    intro c member
    have kept := List.mem_takeWhile_imp member
    exact (Bool.and_eq_true_iff.1 kept).2
  rw [← List.takeWhile_append_of_pos unmarked, List.takeWhile_append_dropWhile]

/-- After a path without a query nothing is left before a number sign. -/
theorem takeWhile_of_unasked {cs : List Char} (unasked : ∀ rest, cs.dropWhile isInPath ≠ '?' :: rest) :
    (cs.dropWhile isInPath).takeWhile (· != '#') = [] := by
  cases left : cs.dropWhile isInPath with
  | nil => rfl
  | cons c rest =>
    have outside : isInPath c = false := by
      have first := List.head?_dropWhile_not isInPath cs
      rw [left] at first
      simpa using first
    have asks : c ≠ '?' := fun same => unasked rest (same ▸ left)
    have marks : c = '#' := by simpa [isInPath, asks] using outside
    rw [marks]
    rfl

theorem query?_eq_some {cs : List Char} {query : String} (read : query? cs = some query) :
    query.toList = cs.takeWhile (· != '#') := by
  unfold query? at read
  dsimp only at read
  split at read
  case isTrue =>
    cases read
    exact String.toList_ofList
  case isFalse => cases read

/-- The path and the query of a target, in the form of the text they were read from. -/
def written (target : Target) : List Char :=
  target.path.toList ++ target.query.elim [] fun query => '?' :: query.toList

theorem pathAndQuery?_eq_some {origin : Option (String × String)} {c : Char} {cs : List Char} {target : Target}
    (inPath : isInPath c = true) (read : pathAndQuery? origin (c :: cs) = some target) :
    target.origin = origin ∧ target.written = (c :: cs).takeWhile (· != '#') := by
  have first : (c :: cs).takeWhile isInPath = c :: cs.takeWhile isInPath := List.takeWhile_cons_of_pos inPath
  have named : (if ((c :: cs).takeWhile isInPath).isEmpty then "/"
      else String.ofList ((c :: cs).takeWhile isInPath)).toList = (c :: cs).takeWhile isInPath := by
    rw [first]
    exact String.toList_ofList
  unfold pathAndQuery? at read
  rw [show (fun c : Char => c != '?' && c != '#') = isInPath from rfl] at read
  dsimp only at read
  rw [drop_path] at read
  rw [takeWhile_eq_path_append]
  split at read
  case isTrue => cases read
  case isFalse =>
    split at read
    case h_1 rest asked =>
      obtain ⟨query, found, rfl⟩ := Option.map_eq_some_iff.1 read
      refine ⟨rfl, ?_⟩
      have marked : ('?' :: rest).takeWhile (· != '#') = '?' :: query.toList := by
        rw [query?_eq_some found]
        rfl
      rw [asked, marked, written, named]
      rfl
    case h_2 unasked =>
      cases read
      refine ⟨rfl, ?_⟩
      rw [takeWhile_of_unasked unasked, written, named]
      rfl

theorem render_of_written {target : Target} (relative : target.origin = none) :
    target.render.toList = target.written := by
  unfold render written
  rw [relative]
  cases target.query with
  | none => simp
  | some query => simp

theorem pathAndQuery?_of_rooted {text : String} {target : Target} (rooted : text.toList.head? = some '/')
    (read : parse? text = some target) : pathAndQuery? none text.toList = some target := by
  unfold parse? at read
  dsimp only at read
  obtain ⟨rest, form⟩ := List.head?_eq_some_iff.1 rooted
  rw [form] at read ⊢
  split at read
  case isTrue => cases read
  case isFalse => exact read

/-- A target that is read from a path is written as the path, up to a number sign. -/
theorem render_of_rooted {text : String} {target : Target} (rooted : text.toList.head? = some '/')
    (read : parse? text = some target) : target.render.toList = text.toList.takeWhile (· != '#') := by
  have found := pathAndQuery?_of_rooted rooted read
  obtain ⟨rest, form⟩ := List.head?_eq_some_iff.1 rooted
  rw [form] at found ⊢
  obtain ⟨relative, kept⟩ := pathAndQuery?_eq_some (by decide) found
  rw [render_of_written relative, kept]

/-- A question mark ends the path, and what follows it is the query. -/
theorem pathAndQuery?_asked {origin : Option (String × String)} {path query : List Char} {target : Target}
    (named : path ≠ []) (inPath : ∀ c ∈ path, isInPath c = true) (unmarked : '#' ∉ query)
    (read : pathAndQuery? origin (path ++ '?' :: query) = some target) :
    target = ⟨origin, String.ofList path, some (String.ofList query)⟩ := by
  have before : (path ++ '?' :: query).takeWhile isInPath = path := by
    rw [List.takeWhile_append_of_pos inPath, List.takeWhile_cons_of_neg (by decide), List.append_nil]
  have whole : query.takeWhile (· != '#') = query := by
    refine List.takeWhile_eq_self_iff.2 fun c member => bne_iff_ne.2 ?_
    rintro rfl
    exact unmarked member
  unfold pathAndQuery? at read
  rw [show (fun c : Char => c != '?' && c != '#') = isInPath from rfl] at read
  dsimp only at read
  rw [before, List.drop_left, if_neg (mt List.isEmpty_iff.1 named)] at read
  split at read
  case isTrue => cases read
  case isFalse =>
    obtain ⟨kept, found, rfl⟩ := Option.map_eq_some_iff.1 read
    have same : kept = String.ofList query := by
      rw [← String.toList_inj, query?_eq_some found, whole, String.toList_ofList]
    rw [same]

end ReplicaAtlas.Http.Target
