import ReplicaAtlas.Http.Query
import ReplicaAtlas.Proofs.Text.Escaped

/-!
Queries of one field. A text is not cut by a separator that it lacks, and a percent encoding has no separators at all
and no plus sign, so a field whose value is encoded comes out as the only one, with the value that was encoded.
-/
namespace ReplicaAtlas.Http
open Text

theorem splitAt_of_not_mem {separator : Char} {cs : List Char} (absent : separator ∉ cs) :
    splitAt separator cs = [cs] := by
  induction cs with
  | nil => rfl
  | cons c rest ih =>
    rw [List.mem_cons, not_or] at absent
    rw [splitAt, if_neg (Ne.symm absent.1), ih absent.2]

theorem cutAt_append {separator : Char} {before : List Char} (absent : separator ∉ before) (after : List Char) :
    cutAt separator (before ++ separator :: after) = (before, after) := by
  have passes (c : Char) (member : c ∈ before) : (c != separator) = true := by
    rw [bne_iff_ne]
    rintro rfl
    exact absent member
  rw [cutAt, List.takeWhile_append_of_pos passes, List.dropWhile_append_of_pos passes,
    List.takeWhile_cons_of_neg (by simp), List.dropWhile_cons_of_neg (by simp), List.append_nil]
  rfl

namespace Query

/-- A component without a plus sign is what its bytes are mended to. -/
theorem component_of_no_plus {cs : List Char} (noPlus : '+' ∉ cs) : component cs = Utf8.mend (Percent.decode cs) := by
  have same : cs.map (fun c => if c = '+' then ' ' else c) = cs := by
    refine (List.map_congr_left fun c member => if_neg ?_).trans cs.map_id
    rintro rfl
    exact noPlus member
  rw [component, same]

theorem parse_of_one {name value : List Char} (wholeName : '=' ∉ name) (alone : '&' ∉ name ++ '=' :: value) :
    parse (String.ofList (name ++ '=' :: value)) = [(component name, component value)] := by
  have some : (name ++ '=' :: value).isEmpty = false := List.isEmpty_eq_false_iff.2 (by simp)
  rw [parse, String.toList_ofList, splitAt_of_not_mem alone, List.filter_cons_of_pos (by simp [some])]
  rw [List.filter_nil, List.map_singleton, cutAt_append wholeName]

end Query

end ReplicaAtlas.Http
