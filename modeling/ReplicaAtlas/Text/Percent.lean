import ReplicaAtlas.Number.Numeral
import ReplicaAtlas.Text.Utf8

/-!
Percent encoding: a byte as a percent sign and two hexadecimal digits. Unreserved characters stand for
themselves. A percent sign without two digits after it stands for itself when it is decoded.
-/
namespace ReplicaAtlas.Text.Percent
open Numeral

def isUnreserved (c : Char) : Bool :=
  c.isAlphanum || c = '-' || c = '.' || c = '_' || c = '~'

def encodeByte (b : UInt8) : List Char :=
  let c := Char.ofNat b.toNat
  if isUnreserved c then [c] else ['%', upperHexDigit (b.toNat / 16), upperHexDigit (b.toNat % 16)]

def encode (text : String) : List Char := (Utf8.encode text.toList).flatMap encodeByte

def decode : List Char → List UInt8
  | [] => []
  | '%' :: a :: b :: rest =>
    match hexValue? a, hexValue? b with
    | some high, some low => (16 * high + low).toUInt8 :: decode rest
    | _, _ => String.utf8EncodeChar '%' ++ decode (a :: b :: rest)
  | c :: rest => String.utf8EncodeChar c ++ decode rest

def decodeText? (cs : List Char) : Option String := Utf8.decode? (decode cs)

end ReplicaAtlas.Text.Percent
