/-!
Arithmetic on machine words of 32 and 64 bits that answers only if the exact result is such a word. What would
wrap around, fall below zero or divide by zero is a fault, and so is to narrow a number that does not fit.
-/
namespace ReplicaAtlas

inductive ArithmeticFault where
  | overflow
  | underflow
  | divisionByZero
  deriving DecidableEq, Repr

abbrev Checked (α : Type) : Type := Except ArithmeticFault α

namespace Word

def ofNat (n : Nat) : Checked UInt32 := if n < 4294967296 then .ok n.toUInt32 else .error .overflow

def add (a b : UInt32) : Checked UInt32 := ofNat (a.toNat + b.toNat)

def sub (a b : UInt32) : Checked UInt32 := if b ≤ a then .ok (a - b) else .error .underflow

def mul (a b : UInt32) : Checked UInt32 := ofNat (a.toNat * b.toNat)

def div (a b : UInt32) : Checked UInt32 := if b = 0 then .error .divisionByZero else .ok (a / b)

def mod (a b : UInt32) : Checked UInt32 := if b = 0 then .error .divisionByZero else .ok (a % b)

theorem ofNat_ok {n : Nat} (fits : n < 4294967296) : ofNat n = .ok n.toUInt32 := if_pos fits

theorem toNat_toUInt32 {n : Nat} (fits : n < 4294967296) : n.toUInt32.toNat = n :=
  UInt32.toNat_ofNat_of_lt' fits

end Word

namespace Wide

def ofNat (n : Nat) : Checked UInt64 := if n < 18446744073709551616 then .ok n.toUInt64 else .error .overflow

def add (a b : UInt64) : Checked UInt64 := ofNat (a.toNat + b.toNat)

def mul (a b : UInt64) : Checked UInt64 := ofNat (a.toNat * b.toNat)

def div (a b : UInt64) : Checked UInt64 := if b = 0 then .error .divisionByZero else .ok (a / b)

def mod (a b : UInt64) : Checked UInt64 := if b = 0 then .error .divisionByZero else .ok (a % b)

def narrow (a : UInt64) : Checked UInt32 := Word.ofNat a.toNat

theorem ofNat_ok {n : Nat} (fits : n < 18446744073709551616) : ofNat n = .ok n.toUInt64 := if_pos fits

theorem div_ok {a b : UInt64} (some : b ≠ 0) : div a b = .ok (a / b) := if_neg some

theorem mod_ok {a b : UInt64} (some : b ≠ 0) : mod a b = .ok (a % b) := if_neg some

theorem toNat_toUInt64 {n : Nat} (fits : n < 18446744073709551616) : n.toUInt64.toNat = n :=
  UInt64.toNat_ofNat_of_lt' fits

end Wide

end ReplicaAtlas
