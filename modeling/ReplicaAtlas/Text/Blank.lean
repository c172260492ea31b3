/-!
Blank characters: those with the Unicode property White_Space. Trimming removes them at both ends.
-/
namespace ReplicaAtlas.Text

def isBlank (c : Char) : Bool :=
  let n := c.toNat
  (9 ≤ n && n ≤ 13) || n == 0x20 || n == 0x85 || n == 0xA0 || n == 0x1680 ||
    (0x2000 ≤ n && n ≤ 0x200A) || n == 0x2028 || n == 0x2029 || n == 0x202F || n == 0x205F || n == 0x3000

theorem isBlank_of_isWhitespace (c : Char) (white : c.isWhitespace = true) : isBlank c = true := by
  simp only [Char.isWhitespace, Bool.or_eq_true, decide_eq_true_eq] at white
  rcases white with ((rfl | rfl) | rfl) | rfl <;> decide

def trim (cs : List Char) : List Char :=
  ((cs.dropWhile isBlank).reverse.dropWhile isBlank).reverse

def dropEnding? (ending cs : List Char) : Option (List Char) :=
  if ending.isSuffixOf cs then some (cs.take (cs.length - ending.length)) else none

def dropBeginning? : List Char → List Char → Option (List Char)
  | [], cs => some cs
  | b :: bs, c :: cs => if b = c then dropBeginning? bs cs else none
  | _ :: _, [] => none

theorem dropBeginning?_eq_some_iff (start cs rest : List Char) :
    dropBeginning? start cs = some rest ↔ cs = start ++ rest := by
  induction start generalizing cs with
  | nil => simp [dropBeginning?]
  | cons b bs ih =>
    cases cs with
    | nil => simp [dropBeginning?]
    | cons c cs => by_cases h : b = c <;> simp [dropBeginning?, h, ih, eq_comm]

end ReplicaAtlas.Text
