import ReplicaAtlas.Duration
import ReplicaAtlas.Number.Word

/-!
Durations on machine words, with seconds of 64 bits and nanoseconds of 32. A numeral or a number of minutes that is too
large is noticed and refused. Any other step that leaves its word is a fault.
-/
namespace ReplicaAtlas

structure WordDuration where
  seconds : UInt64
  nanoseconds : UInt32
  deriving DecidableEq, Repr

namespace WordDuration
open Text Numeral

def ofSeconds (n : UInt64) : WordDuration := ⟨n, 0⟩

def ofMilliseconds (n : UInt64) : Checked WordDuration := do
  let seconds ← Wide.div n 1000
  let left ← Wide.mod n 1000
  let milliseconds ← Wide.narrow left
  let nanoseconds ← Word.mul milliseconds 1000000
  return ⟨seconds, nanoseconds⟩

def digits? (n : UInt64) : List Char → Option UInt64
  | [] => some n
  | c :: rest => do
    let tenfold ← (Wide.mul n 10).toOption
    let next ← (Wide.add tenfold (digitValue c).toUInt64).toOption
    digits? next rest

def unsigned : List Char → List Char
  | '+' :: rest => rest
  | cs => cs

def numeral? (cs : List Char) : Option UInt64 :=
  if (unsigned cs).isEmpty || !(unsigned cs).all isDigit then none else digits? 0 (unsigned cs)

def ofMinutes? (n : UInt64) : Option WordDuration := (Wide.mul n 60).toOption.map ofSeconds

def parse? (text : String) : Checked (Option WordDuration) :=
  let cs := trim text.toList
  match dropEnding? ['m', 's'] cs with
  | some number => (numeral? number).mapM ofMilliseconds
  | none => match dropEnding? ['s'] cs with
    | some number => .ok ((numeral? number).map ofSeconds)
    | none => match dropEnding? ['m'] cs with
      | some number => .ok ((numeral? number).bind ofMinutes?)
      | none => .ok ((numeral? cs).map ofSeconds)

end WordDuration

def Duration.toWords (d : Duration) : WordDuration := ⟨d.seconds.toUInt64, d.nanoseconds.toUInt32⟩

end ReplicaAtlas
