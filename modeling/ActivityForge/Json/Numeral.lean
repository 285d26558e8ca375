import ActivityForge.Json.Value
import ActivityForge.Number.Digits

/-!
# Numerals in JSON

The grammar of JSON numbers and their values.  Integers that fit 64 bits are exact; everything
else is a double, computed from at most 64 bits of significant digits and a power of ten.  A
numeral has its grammar checked first, because where a number is skipped nothing but the grammar
counts.
-/

open ActivityForge.Number (digitValue fitsBits natOfDigits spanDigits)

namespace ActivityForge.Json

/-- The parts of a number as written; a missing part is `none`. -/
structure Numeral where
  isNegative : Bool
  whole : List Char
  fraction : Option (List Char)
  /-- Whether the exponent is negative, and its digits. -/
  exponent : Option (Bool × List Char)
deriving DecidableEq, Repr

/-- How the grammar of numbers is broken. -/
inductive NumeralFault
  /-- A digit is missing where the text goes on. -/
  | noDigit
  /-- A digit is missing where the text ends. -/
  | noEnd
deriving DecidableEq, Repr

/-- At least one digit. -/
def someDigits (cs : List Char) : Except NumeralFault (List Char × List Char) :=
  match spanDigits cs with
  | ([], []) => .error .noEnd
  | ([], _ :: _) => .error .noDigit
  | split => .ok split

/-- The digits before the point: no zero in front of others. -/
def readWhole (cs : List Char) : Except NumeralFault (List Char × List Char) := do
  match ← someDigits cs with
  | ('0' :: _ :: _, _) => .error .noDigit
  | split => .ok split

def readFraction : List Char → Except NumeralFault (Option (List Char) × List Char)
  | '.' :: cs => do
    let (digits, rest) ← someDigits cs
    pure (some digits, rest)
  | cs => pure (none, cs)

def readExponent : List Char → Except NumeralFault (Option (Bool × List Char) × List Char)
  | c :: cs =>
    if c = 'e' || c = 'E' then do
      let (negative, cs) := match cs with
        | '-' :: rest => (true, rest)
        | '+' :: rest => (false, rest)
        | _ => (false, cs)
      let (digits, rest) ← someDigits cs
      pure (some (negative, digits), rest)
    else pure (none, c :: cs)
  | [] => pure (none, [])

/-- A number at the start of a text, and the rest. -/
def readNumeral (cs : List Char) : Except NumeralFault (Numeral × List Char) := do
  let (negative, cs) := match cs with
    | '-' :: rest => (true, rest)
    | _ => (false, cs)
  let (whole, cs) ← readWhole cs
  let (fraction, cs) ← readFraction cs
  let (exponent, rest) ← readExponent cs
  pure (⟨negative, whole, fraction, exponent⟩, rest)

/-! ## Values -/

/-- Takes digits into a significand while it fits 64 bits; the rest of the digits is returned. -/
def fill (significand : Nat) : List Char → Nat × List Char
  | [] => (significand, [])
  | d :: ds =>
    if significand * 10 + digitValue d < 1 <<< 64 then fill (significand * 10 + digitValue d) ds
    else (significand, d :: ds)

/-- A significand times a power of ten, by one division or multiplication where the power is
within range, and in steps of `10 ^ 308` below it; `none` if the number is too large. -/
def scale (x : Float) : Nat → Int → Option Float
  | 0, _ => some 0
  | steps + 1, e =>
    if e.natAbs ≤ 308 then
      if e < 0 then some (x / Float.ofScientific 1 false e.natAbs)
      else
        let y := x * Float.ofScientific 1 false e.natAbs
        if y.isInf then none else some y
    else if x == 0 then some x
    else if e > 0 then none
    else scale (x / 1e308) steps (e + 308)

/-- The double of a significand and a power of ten. -/
def floatOf (negative : Bool) (significand : Nat) (e : Int) : Option Float :=
  (scale significand.toUInt64.toFloat 4 e).map fun x => if negative then -x else x

/-- The double that a numeral denotes, if it is in range.  Digits that do not fit the
significand are dropped, and count only by their places before the point. -/
def Numeral.float? (n : Numeral) : Option Float :=
  let (first, dropped) := fill 0 n.whole
  let (significand, taken) := match n.fraction with
    | some ds =>
      let (s, rest) := fill first ds
      (s, ds.length - rest.length)
    | none => (first, 0)
  let start : Int := (dropped.length : Int) - taken
  match n.exponent with
  | none => floatOf n.isNegative significand start
  | some (below, ds) =>
    let e := natOfDigits ds
    if e < 1 <<< 31 then floatOf n.isNegative significand (if below then start - e else start + e)
    else if significand ≠ 0 && !below then none
    else some (if n.isNegative then -0.0 else 0.0)

/-- The number that a numeral denotes, if it is in range. -/
def Numeral.value? (n : Numeral) : Option Number :=
  let whole := natOfDigits n.whole
  let signed : Int := if n.isNegative then -whole else whole
  match n.fraction, n.exponent with
  | none, none =>
    if fitsBits 64 signed && !(n.isNegative && whole = 0) then some (.int signed)
    else n.float?.map .float
  | _, _ => n.float?.map .float

end ActivityForge.Json
