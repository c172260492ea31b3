import ReplicaAtlas.Number.Numeral
import ReplicaAtlas.Text.Blank

/-!
Durations in whole milliseconds. A written duration is a numeral below 2^64 with a unit directly after it:
ms, s, m, or nothing for seconds. Minutes must not exceed 2^64 - 1 seconds.
-/
namespace ReplicaAtlas

structure Duration where
  milliseconds : Nat
  deriving DecidableEq, Repr

namespace Duration
open Text Numeral

def ofSeconds (n : Nat) : Duration := ⟨1000 * n⟩

def seconds (d : Duration) : Nat := d.milliseconds / 1000

def nanoseconds (d : Duration) : Nat := d.milliseconds % 1000 * 1000000

def parse? (text : String) : Option Duration :=
  let cs := trim text.toList
  match dropEnding? ['m', 's'] cs with
  | some number => (bounded? 64 number).map Duration.mk
  | none => match dropEnding? ['s'] cs with
    | some number => (bounded? 64 number).map ofSeconds
    | none => match dropEnding? ['m'] cs with
      | some number => ((bounded? 64 number).filter (60 * · < Nat.pow 2 64)).map fun n => ofSeconds (60 * n)
      | none => (bounded? 64 cs).map ofSeconds

def fraction (thousandths : Nat) : String :=
  let digits := [thousandths / 100, thousandths / 10 % 10, thousandths % 10]
  let kept := (digits.reverse.dropWhile (· == 0)).reverse
  if kept.isEmpty then "" else "." ++ String.join (kept.map toString)

def display (d : Duration) : String :=
  if 1000 ≤ d.milliseconds then toString d.seconds ++ fraction (d.milliseconds % 1000) ++ "s"
  else if d.milliseconds = 0 then "0ns"
  else toString d.milliseconds ++ "ms"

end Duration

end ReplicaAtlas
