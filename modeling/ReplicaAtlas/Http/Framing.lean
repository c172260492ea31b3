import ReplicaAtlas.Number.Numeral
import ReplicaAtlas.Http.Message

/-!
The parts that requests and replies have in common on a connection: lines, headers up to an empty line, and
a body that ends after an announced length, with the last chunk, or with the bytes.
-/
namespace ReplicaAtlas.Http.Framing
open Numeral

def letter (b : UInt8) : Char := Char.ofNat b.toNat

def line? (bytes : List UInt8) : Option (List Char × List UInt8) :=
  let inside := bytes.takeWhile fun b => b != 10 && b != 13
  match bytes.drop inside.length with
  | 10 :: rest => some (inside.map letter, rest)
  | 13 :: 10 :: rest => some (inside.map letter, rest)
  | _ => none

def isFieldChar (c : Char) : Bool := c = '\t' || (0x20 ≤ c.toNat && c.toNat ≠ 0x7F)

def dropEmptyLines : List UInt8 → List UInt8
  | 13 :: 10 :: rest => dropEmptyLines rest
  | 10 :: rest => dropEmptyLines rest
  | bytes => bytes

def trimSpace (cs : List Char) : List Char :=
  let isSpace (c : Char) : Bool := c = ' ' || c = '\t'
  ((cs.dropWhile isSpace).reverse.dropWhile isSpace).reverse

def nameLimit : Nat := 65536

def header? (cs : List Char) : Option (String × String) :=
  let name := cs.takeWhile isTokenChar
  match cs.drop name.length with
  | ':' :: rest =>
    if name.isEmpty || nameLimit ≤ name.length || !rest.all isFieldChar then none
    else some (String.ofList (name.map Char.toLower), String.ofList (trimSpace rest))
  | _ => none

def headers? : Nat → List UInt8 → Option (List (String × String) × List UInt8)
  | 0, bytes => do
    let (cs, rest) ← line? bytes
    if cs.isEmpty then return ([], rest) else none
  | count + 1, bytes => do
    let (cs, rest) ← line? bytes
    if cs.isEmpty then return ([], rest)
    let header ← header? cs
    let (headers, rest) ← headers? count rest
    return (header :: headers, rest)

def headerLimit : Nat := 100

def named (name : String) (headers : List (String × String)) : List String :=
  (headers.filter (·.1 == name)).map (·.2)

def lengthLimit : Nat := Nat.pow 2 64 - 3

def lengths? (values : List String) : Option (List Nat) :=
  (values.flatMap fun v => (String.ofList (trimSpace v.toList)).splitOn ",").mapM fun part =>
    (natural? (trimSpace part.toList)).filter (· ≤ lengthLimit)

/-- The last coding of the last header that names codings; one with letters beyond ASCII names none. -/
def lastCoding (values : List String) : String :=
  let codings := (values.getLast?.getD "").toList
  if codings.all (·.toNat < 0x80) then
    String.ofList ((trimSpace (codings.reverse.takeWhile (· != ',')).reverse).map Char.toLower)
  else ""

def chunkLine? (bytes : List UInt8) : Option (List Char × List UInt8) :=
  let inside := bytes.takeWhile (· != 13)
  match bytes.drop inside.length with
  | 13 :: 10 :: rest => some (inside.map letter, rest)
  | _ => none

def chunkSize? (cs : List Char) : Option (Nat × Nat) :=
  let digits := cs.takeWhile fun c => (hexValue? c).isSome
  let size := digits.foldl (fun n c => 16 * n + (hexValue? c).getD 0) 0
  if digits.isEmpty || Nat.pow 2 64 ≤ size then none
  else match (cs.drop digits.length).dropWhile fun c => c = ' ' || c = '\t' with
    | [] => some (size, 0)
    | ';' :: rest => if rest.contains '\n' then none else some (size, rest.length)
    | _ => none

def extensionLimit : Nat := 16384

def trailerLimit : Nat := 16384

def linesBeforeEmpty? : Nat → List UInt8 → Option (Nat × Nat)
  | 0, _ => none
  | limit + 1, bytes => do
    let (cs, rest) ← chunkLine? bytes
    if cs.isEmpty then return (0, 2)
    let (count, size) ← linesBeforeEmpty? limit rest
    return (count + 1, cs.length + 2 + size)

/-- After the last chunk there is an empty line, or headers before it, one at most for each line. -/
def endsAfter (bytes : List UInt8) : Bool :=
  match linesBeforeEmpty? headerLimit bytes with
  | none => false
  | some (0, _) => true
  | some (count, size) => size < trailerLimit && (headers? count (bytes.take size)).isSome

def chunksFrom (before : List (List UInt8)) (extensions : Nat) : Nat → List UInt8 → Option (List UInt8)
  | 0, _ => none
  | count + 1, bytes => do
    let (cs, rest) ← chunkLine? bytes
    let (size, extension) ← chunkSize? cs
    if extensionLimit ≤ extensions + extension then none
    else if size = 0 then (if endsAfter rest then some before.reverse.flatten else none)
    else match rest.drop size with
      | 13 :: 10 :: after => chunksFrom (rest.take size :: before) (extensions + extension) count after
      | _ => none

def chunks? (bytes : List UInt8) : Option (List UInt8) := chunksFrom [] 0 bytes.length bytes

end ReplicaAtlas.Http.Framing
