/-!
# Digits

The values of digits and of numbers written in digits, and the ranges that these may have.
-/

namespace ActivityForge.Number

def digitValue (c : Char) : Nat := c.toNat - '0'.toNat

/-- The value of a digit in a base up to 16. -/
def hexValue? (c : Char) : Option Nat :=
  if c.isDigit then some (digitValue c)
  else if 'a' ≤ c && c ≤ 'f' then some (c.toNat - 'a'.toNat + 10)
  else if 'A' ≤ c && c ≤ 'F' then some (c.toNat - 'A'.toNat + 10)
  else none

/-- The number that decimal digits write. -/
def natOfDigits (ds : List Char) : Nat := ds.foldl (fun n d => n * 10 + digitValue d) 0

/-- The number that digits in a base up to 16 write, if there are any and all are digits. -/
def natOfBase? (base : Nat) (cs : List Char) : Option Nat :=
  if cs.isEmpty then none
  else cs.foldlM (fun n c => do
    let digit ← hexValue? c
    if digit < base then some (n * base + digit) else none) 0

/-- The digits at the start of a text and the rest. -/
def spanDigits (cs : List Char) : List Char × List Char :=
  (cs.takeWhile Char.isDigit, cs.dropWhile Char.isDigit)

/-- Whether an integer fits a number of bits, be it with or without a sign. -/
def fitsBits (bits : Nat) (n : Int) : Bool :=
  -((1 <<< (bits - 1) : Nat) : Int) ≤ n && n < ((1 <<< bits : Nat) : Int)

end ActivityForge.Number
