import ReplicaAtlas.Json.Basic
import ReplicaAtlas.Number.Shortest

/-!
Writing a JSON value on one line without blanks. A float is written as its shortest decimal, with a point
between digits if its first digit stands at most five places after the point or sixteen before it, and with
an exponent otherwise. One without a finite value is written as null.
-/
namespace ReplicaAtlas.Json

def hexDigit (n : Nat) : Char := (Numeral.upperHexDigit n).toLower

def escaped (c : Char) : List Char :=
  if c = '"' then ['\\', '"']
  else if c = '\\' then ['\\', '\\']
  else if c = '\n' then ['\\', 'n']
  else if c = '\r' then ['\\', 'r']
  else if c = '\t' then ['\\', 't']
  else if c.toNat < 0x20 then ['\\', 'u', '0', '0', hexDigit (c.toNat / 16), hexDigit (c.toNat % 16)]
  else [c]

def quoted (s : String) : String := "\"" ++ String.ofList (s.toList.flatMap escaped) ++ "\""

def pointed (digits : List Char) (before : Int) : List Char :=
  let zeros (n : Int) : List Char := List.replicate n.toNat '0'
  if before ≤ 0 then '0' :: '.' :: (zeros (-before) ++ digits)
  else if digits.length ≤ before then digits ++ zeros (before - digits.length) ++ ['.', '0']
  else digits.take before.toNat ++ '.' :: digits.drop before.toNat

def decimalText (d : Decimal) : String :=
  let digits := Nat.toDigits 10 d.significand
  let before := digits.length + d.exponent
  let text :=
    if d.significand = 0 then "0.0".toList
    else if -5 < before && before ≤ 16 then pointed digits before
    else
      let fraction := if digits.length = 1 then [] else '.' :: digits.drop 1
      digits.take 1 ++ fraction ++ 'e' :: (toString (before - 1)).toList
  String.ofList (if d.negative then '-' :: text else text)

def floatText (x : Float) : String := ((Binary64.shortest? x).map decimalText).getD "null"

mutual

def render : Json → String
  | .null => "null"
  | .bool true => "true"
  | .bool false => "false"
  | .number (.int n) => toString n
  | .number (.float x) => floatText x
  | .text s => quoted s
  | .array items => "[" ++ ",".intercalate (renderItems items) ++ "]"
  | .object members => "\x7b" ++ ",".intercalate (renderMembers members) ++ "\x7d"

def renderItems : List Json → List String
  | [] => []
  | v :: vs => render v :: renderItems vs

def renderMembers : List (String × Json) → List String
  | [] => []
  | (name, v) :: ms => (quoted name ++ ":" ++ render v) :: renderMembers ms

end

end ReplicaAtlas.Json
