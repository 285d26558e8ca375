/-!
# Shortest decimals

The shortest decimal that reads back as a given binary floating point number.  `shortest` works
on a value `m * 2 ^ q` and its neighbours in exact arithmetic: for ever more digits it tests the
two decimals around the value, and the first of them that lies within half a step of the value
wins, the nearer one if both do.
-/

namespace ActivityForge.Number

/-- `coefficient * 10 ^ exponent`. -/
structure Decimal where
  coefficient : Nat
  exponent : Int
deriving DecidableEq, Repr, Inhabited

/-- A finite positive binary number `mantissa * 2 ^ exponent`, with `atPower` if the number below
it is only half as far away as the number above. -/
structure Binary where
  mantissa : Nat
  exponent : Int
  atPower : Bool
deriving DecidableEq, Repr

/-- The number as a fraction of two naturals. -/
def scaled (n : Nat) (base : Nat) (e : Int) : Nat × Nat :=
  if e < 0 then (n, base.pow e.natAbs) else (n * base.pow e.natAbs, 1)

namespace Binary

/-- Four times the value, and four times the ends of the interval that rounds to it, over the
common denominator `4 * 2 ^ -exponent`. -/
def bounds (b : Binary) : Nat × Nat × Nat × Nat :=
  let (value, den) := scaled (4 * b.mantissa) 2 b.exponent
  let (step, _) := scaled 1 2 b.exponent
  (value, value - (if b.atPower then step else 2 * step), value + 2 * step, 4 * den)

/-- Whether `c * 10 ^ e` reads back as the number. -/
def holds (b : Binary) (c : Nat) (e : Int) : Bool :=
  let (_, low, high, den) := b.bounds
  let (num, cden) := scaled c 10 e
  let x := num * den
  if b.mantissa % 2 = 0 then low * cden ≤ x && x ≤ high * cden
  else low * cden < x && x < high * cden

/-- The largest `c` with `c * 10 ^ e` at most the number. -/
def floorAt (b : Binary) (e : Int) : Nat :=
  let (value, _, _, den) := b.bounds
  let (unit, uden) := scaled 1 10 e
  (value * uden) / (den * unit)

/-- Whether `c * 10 ^ e` is nearer to the number than `(c + 1) * 10 ^ e`; a tie goes to the even
coefficient. -/
def prefersLower (b : Binary) (c : Nat) (e : Int) : Bool :=
  let (value, _, _, den) := b.bounds
  let (mid, mden) := scaled (2 * c + 1) 10 e
  let left := 2 * value * mden
  let right := mid * den
  left < right || (left = right && c % 2 = 0)

/-- The decimal with step `10 ^ e` that reads back, if there is one. -/
def atStep? (b : Binary) (e : Int) : Option Decimal :=
  let c := b.floorAt e
  match b.holds c e, b.holds (c + 1) e with
  | true, true => some ⟨if b.prefersLower c e then c else c + 1, e⟩
  | true, false => some ⟨c, e⟩
  | false, true => some ⟨c + 1, e⟩
  | false, false => none

/-- The exponent of the leading digit of the number, or one more. -/
def topExponent (b : Binary) : Int :=
  let bits : Int := (Nat.log2 b.mantissa : Int) + 1 + b.exponent
  (bits * 30103) / 100000 + 1

/-- The first step, from `10 ^ e` downwards, at which a decimal reads back. -/
def search (b : Binary) : Nat → Int → Decimal
  | 0, e => ⟨b.floorAt e, e⟩
  | fuel + 1, e =>
    match b.atStep? e with
    | some d => d
    | none => search b fuel (e - 1)

end Binary

/-- The coefficient without trailing zeros. -/
def Decimal.trimmed (d : Decimal) : Nat → Decimal
  | 0 => d
  | fuel + 1 =>
    if d.coefficient ≠ 0 && d.coefficient % 10 = 0 then
      trimmed ⟨d.coefficient / 10, d.exponent + 1⟩ fuel
    else d

/-- The shortest decimal that reads back as `b`. -/
def Binary.shortest (b : Binary) : Decimal :=
  let d := b.search 20 b.topExponent
  d.trimmed 20

/-! ## Doubles -/

/-- The value of the bits of a finite double other than zero, without its sign. -/
def Binary.ofBits (bits : UInt64) : Binary :=
  let fraction := (bits &&& 0xFFFFFFFFFFFFF).toNat
  let power := ((bits >>> 52) &&& 0x7FF).toNat
  if power = 0 then ⟨fraction, -1074, false⟩
  else ⟨fraction + 1 <<< 52, (power : Int) - 1075, fraction = 0 && power > 1⟩

/-- The shortest decimal of the absolute value of a finite double. -/
def shortest (x : Float) : Decimal :=
  if x == 0 then ⟨0, 0⟩ else (Binary.ofBits x.toBits).shortest

/-- Whether the sign bit is set. -/
def isNegative (x : Float) : Bool := x.toBits >>> 63 == 1

/-! ## Written forms -/

/-- Positional notation, always with a decimal point. -/
def Decimal.positional (d : Decimal) : String :=
  let digits := toString d.coefficient
  let n := digits.length
  if d.exponent ≥ 0 then
    digits ++ String.ofList (List.replicate d.exponent.natAbs '0') ++ ".0"
  else
    let drop := d.exponent.natAbs
    if drop < n then
      String.ofList (digits.toList.take (n - drop)) ++ "."
        ++ String.ofList (digits.toList.drop (n - drop))
    else "0." ++ String.ofList (List.replicate (drop - n) '0') ++ digits

/-- Scientific notation: one digit before the point, and no point after a single digit. -/
def Decimal.scientific (d : Decimal) : String :=
  let digits := (toString d.coefficient).toList
  let e := d.exponent + (digits.length : Int) - 1
  let tail := digits.drop 1
  String.ofList (digits.take 1) ++ (if tail.isEmpty then "" else "." ++ String.ofList tail)
    ++ "e" ++ toString e

/-- A finite double in data: positional while the value is below `10 ^ 16` and at least
`10 ^ -5`, scientific otherwise. -/
def floatText (x : Float) : String :=
  let d := shortest x
  let point := d.exponent + ((toString d.coefficient).length : Int)
  let body := if d.coefficient = 0 || (-5 < point && point ≤ 16) then d.positional else d.scientific
  if isNegative x then "-" ++ body else body

/-- A double in an error message, always positional. -/
def plainFloatText (x : Float) : String :=
  if x.isNaN then "NaN"
  else
    let body := if x.isInf then "inf" else (shortest x).positional
    if isNegative x then "-" ++ body else body

end ActivityForge.Number
