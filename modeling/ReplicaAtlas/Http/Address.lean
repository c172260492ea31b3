import ReplicaAtlas.Number.Numeral
import ReplicaAtlas.Text.Scanner

/-!
Addresses to listen on: four decimal bytes, or eight groups of hexadecimal digits in brackets, and after a
colon the number to listen at. A run of groups of zeros may be left out once, and the last two groups may be
written as four bytes.
-/
namespace ReplicaAtlas.Http
open Text Numeral

inductive Host where
  | bytes (a b c d : UInt8)
  | groups (values : List UInt16)
  deriving DecidableEq, Repr

/-- Whether a host is the machine itself in whatever network it is: a loopback address, or the one for all.
Four bytes may also stand at the end of groups, after zeros and a group of ones. -/
def Host.isOwn : Host → Bool
  | .bytes a b c d => a = 127 || (a = 0 && b = 0 && c = 0 && d = 0)
  | .groups values =>
    if values.take 6 = [0, 0, 0, 0, 0, 0xFFFF] then
      (values.drop 6).all (· = 0) || (values.drop 6).head?.any (· / 256 = 127)
    else (values.take 7).all (· = 0) && (values.drop 7).all (· ≤ 1)

structure Address where
  host : Host
  number : UInt16
  deriving DecidableEq, Repr

namespace Address

def symbol (c : Char) : Scanner Unit := Scanner.exactly [c]

def isHexDigit (c : Char) : Bool := (hexValue? c).isSome

def byte : Scanner UInt8 := do
  let digits ← Scanner.run1 isDigit
  if digits.length ≤ 3 && value digits < 256 && (digits.length = 1 || digits.head? != some '0') then
    return (value digits).toUInt8
  else Scanner.fail

def bytes : Scanner (UInt8 × UInt8 × UInt8 × UInt8) := do
  let a ← byte
  symbol '.'
  let b ← byte
  symbol '.'
  let c ← byte
  symbol '.'
  return (a, b, c, ← byte)

def group : Scanner UInt16 := do
  let digits ← Scanner.run1 isHexDigit
  if digits.length ≤ 4 then return (digits.foldl (fun n c => 16 * n + (hexValue? c).getD 0) 0).toUInt16
  else Scanner.fail

def pair (high low : UInt8) : UInt16 := 256 * high.toUInt16 + low.toUInt16

/-- Up to so many groups, and whether the last two of them are written as bytes. -/
def groups (isFirst : Bool) : Nat → Scanner (List UInt16 × Bool)
  | 0 => return ([], false)
  | limit + 1 => do
    let separator : Scanner Unit := if isFirst then pure () else symbol ':'
    let four ← if limit = 0 then pure none else Scanner.optionally (separator *> bytes)
    if let some (a, b, c, d) := four then return ([pair a b, pair c d], true)
    match ← Scanner.optionally (separator *> group) with
    | none => return ([], false)
    | some value =>
      let (more, inBytes) ← groups false limit
      return (value :: more, inBytes)

/-- Eight groups, or fewer with two colons in place of those that are zero. -/
def allGroups : Scanner (List UInt16) := do
  let (head, inBytes) ← groups true 8
  if head.length = 8 then return head
  if inBytes then Scanner.fail
  Scanner.exactly [':', ':']
  let (tail, _) ← groups true (7 - head.length)
  return head ++ List.replicate (8 - (head.length + tail.length)) 0 ++ tail

def numberBelow (limit : Nat) : Scanner Nat := do
  let digits ← Scanner.run1 isDigit
  if value digits < limit then return value digits else Scanner.fail

def bracketed : Scanner (List UInt16) := do
  symbol '['
  let values ← allGroups
  let _ ← Scanner.optionally (symbol '%' *> numberBelow (Nat.pow 2 32))
  symbol ']'
  return values

def anyHost : Scanner Host :=
  Scanner.either (bytes.map fun (a, b, c, d) => .bytes a b c d) (bracketed.map .groups)

def address : Scanner Address := do
  let host ← anyHost
  symbol ':'
  let number ← numberBelow (Nat.pow 2 16)
  Scanner.atEnd
  return ⟨host, number.toUInt16⟩

def parse? (text : String) : Option Address := (address text.toList).map (·.1)

end Address

end ReplicaAtlas.Http
