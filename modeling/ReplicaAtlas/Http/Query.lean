import ReplicaAtlas.Text.Percent

/-!
Queries of request targets: fields with values between ampersands. A plus sign stands for a blank, and bytes
that are no text are replaced. A field that is asked for may be missing but not occur twice.
-/
namespace ReplicaAtlas.Http
open Text

def splitAt (separator : Char) : List Char → List (List Char)
  | [] => [[]]
  | c :: rest =>
    if c = separator then [] :: splitAt separator rest
    else match splitAt separator rest with
      | part :: parts => (c :: part) :: parts
      | [] => [[c]]

def cutAt (separator : Char) (cs : List Char) : List Char × List Char :=
  (cs.takeWhile (· != separator), (cs.dropWhile (· != separator)).drop 1)

abbrev Query := List (String × String)

namespace Query

def component (cs : List Char) : String :=
  Utf8.mend (Percent.decode (cs.map fun c => if c = '+' then ' ' else c))

def parse (text : String) : Query :=
  ((splitAt '&' text.toList).filter (!·.isEmpty)).map fun part =>
    let (name, value) := cutAt '=' part
    (component name, component value)

/-- The value of a field, empty if it is missing; none if it occurs twice. -/
def field? (query : Query) (name : String) : Option String :=
  match query.filter (·.1 == name) with
  | [] => some ""
  | [(_, value)] => some value
  | _ => none

end Query

end ReplicaAtlas.Http
