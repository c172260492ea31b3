/-!
Texts as bytes in UTF-8. Bytes that are no text can still be read with a replacement character for each
broken part, where a part is the longest beginning of a character's bytes, or a single byte.
-/
namespace ReplicaAtlas.Text.Utf8

def encode (cs : List Char) : List UInt8 := cs.flatMap String.utf8EncodeChar

def decode? (bytes : List UInt8) : Option String := String.fromUTF8? bytes.toByteArray

def replacement : Char := '\uFFFD'

/-- A character whose first bytes are read: how many are left, the bounds of the next one, the value so far. -/
structure Pending where
  left : Nat
  low : Nat
  high : Nat
  value : Nat

def start (b : Nat) : List Char × Option Pending :=
  if b < 0x80 then ([Char.ofNat b], none)
  else if 0xC2 ≤ b && b ≤ 0xDF then ([], some ⟨1, 0x80, 0xBF, b - 0xC0⟩)
  else if 0xE0 ≤ b && b ≤ 0xEF then
    ([], some ⟨2, if b = 0xE0 then 0xA0 else 0x80, if b = 0xED then 0x9F else 0xBF, b - 0xE0⟩)
  else if 0xF0 ≤ b && b ≤ 0xF4 then
    ([], some ⟨3, if b = 0xF0 then 0x90 else 0x80, if b = 0xF4 then 0x8F else 0xBF, b - 0xF0⟩)
  else ([replacement], none)

def mendFrom : Option Pending → List UInt8 → List Char
  | none, [] => []
  | some _, [] => [replacement]
  | none, b :: rest =>
    let (cs, pending) := start b.toNat
    cs ++ mendFrom pending rest
  | some p, b :: rest =>
    if p.low ≤ b.toNat && b.toNat ≤ p.high then
      let value := 64 * p.value + (b.toNat - 0x80)
      if p.left ≤ 1 then Char.ofNat value :: mendFrom none rest
      else mendFrom (some ⟨p.left - 1, 0x80, 0xBF, value⟩) rest
    else
      let (cs, pending) := start b.toNat
      replacement :: cs ++ mendFrom pending rest

def mend (bytes : List UInt8) : String := String.ofList (mendFrom none bytes)

end ReplicaAtlas.Text.Utf8
