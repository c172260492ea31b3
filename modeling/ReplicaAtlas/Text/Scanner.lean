import ReplicaAtlas.Text.Blank

/-!
Scanners read a value off the front of a text and leave the rest of it, or fail. A repetition goes on as
long as its step succeeds; a step that takes at least one character succeeds no more often than there are
characters.
-/
namespace ReplicaAtlas.Text

abbrev Scanner (α : Type) := StateT (List Char) Option α

namespace Scanner
variable {α β : Type}

def char (test : Char → Bool) : Scanner Char
  | [] => none
  | c :: rest => if test c then some (c, rest) else none

def exactly (word : List Char) : Scanner Unit := fun cs => (dropBeginning? word cs).map ((), ·)

def run (test : Char → Bool) : Scanner (List Char) := fun cs => some (cs.takeWhile test, cs.dropWhile test)

def run1 (test : Char → Bool) : Scanner (List Char) := fun cs =>
  if (cs.takeWhile test).isEmpty then none else run test cs

def fail : Scanner α := fun _ => none

def either (first second : Scanner α) : Scanner α := fun cs => (first cs).orElse fun _ => second cs

def optionally (step : Scanner α) : Scanner (Option α) := either (step.map some) (pure none)

def before (step : Scanner α) (next : Scanner β) : Scanner α := do
  let a ← step
  let _ ← next
  return a

/-- The values of a step, at most one for each character of the text that is given first. -/
def repeatFor (step : Scanner α) : List Char → List Char → List α × List Char
  | [], cs => ([], cs)
  | _ :: more, cs =>
    match step cs with
    | none => ([], cs)
    | some (a, rest) =>
      let (as, last) := repeatFor step more rest
      (a :: as, last)

def repeated (step : Scanner α) : Scanner (List α) := fun cs => some (repeatFor step cs cs)

def separated (separator : Scanner Unit) (item : Scanner α) : Scanner (List α) :=
  either (do
    let first ← item
    let rest ← repeated (separator *> item)
    return first :: rest) (pure [])

def atEnd : Scanner Unit
  | [] => some ((), [])
  | _ :: _ => none

end Scanner

end ReplicaAtlas.Text
