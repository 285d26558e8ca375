import ActivityForge.Number.Digits
import ActivityForge.Reading.Tree
import ActivityForge.Yaml.Token

/-!
# Values of scalars

What a YAML scalar can be read as.  A plain scalar without a tag is nothing, a flag, an integer, a
float or else a text, whichever fits first; a tag of the core types asks for one of them, and
every other scalar is a text.
-/

namespace ActivityForge.Yaml

open Number (fitsBits natOfBase? natOfDigits spanDigits)
open Reading (Atom Scalar)

/-! ## Plain forms -/

/-- Texts that stand for nothing. -/
def nullTexts : List String := ["~", "null", "Null", "NULL"]

def flagOfText? (s : String) : Option Bool :=
  if ["true", "True", "TRUE"].contains s then some true
  else if ["false", "False", "FALSE"].contains s then some false
  else none

/-- A sign and digits that begin with a superfluous zero: the form of no number. -/
def isPadded (cs : List Char) : Bool :=
  match cs with
  | '+' :: '0' :: ds | '-' :: '0' :: ds | '0' :: ds => !ds.isEmpty && ds.all Char.isDigit
  | _ => false

/-- An integer without a minus sign. -/
def magnitude? (cs : List Char) : Option Nat :=
  match cs with
  | '0' :: 'x' :: ds => natOfBase? 16 ds
  | '0' :: 'o' :: ds => natOfBase? 8 ds
  | '0' :: 'b' :: ds => natOfBase? 2 ds
  | _ => if isPadded cs then none else natOfBase? 10 cs

def integer? (cs : List Char) : Option Int :=
  match cs with
  | '-' :: ds => (magnitude? ds).map fun n => -(n : Int)
  | '+' :: ds => (magnitude? ds).map fun n => (n : Int)
  | _ => (magnitude? cs).map fun n => (n : Int)

/-- An integer, unless it takes more than 128 bits. -/
def integerAtom? (cs : List Char) : Option Atom := do
  let n ← integer? cs
  if fitsBits 64 n then some (.int n)
  else if fitsBits 128 n then some (.wide n)
  else none

/-- The double of decimal digits with a point before the last `places`, times a power of ten, if
it is finite. -/
def finite? (digits : List Char) (places : Nat) (exponent : Int) : Option Float :=
  let significand := natOfDigits digits
  let exponent := exponent - places
  let size := exponent + (digits.dropWhile (· = '0')).length
  if significand = 0 || size < -400 then some 0
  else if size > 400 then none
  else
    let x := Float.ofScientific significand (exponent < 0) exponent.natAbs
    if x.isInf then none else some x

/-- The exponent of a decimal, zero if there is none. -/
def exponent? (cs : List Char) : Option Int :=
  let value? (ds : List Char) : Option Nat :=
    if !ds.isEmpty && ds.all Char.isDigit then some (natOfDigits ds) else none
  match cs with
  | [] => some 0
  | c :: cs =>
    if c = 'e' || c = 'E' then
      match cs with
      | '-' :: ds => (value? ds).map fun n => -(n : Int)
      | '+' :: ds => (value? ds).map fun n => (n : Int)
      | ds => (value? ds).map fun n => (n : Int)
    else none

/-- A decimal without a sign: digits, perhaps a point and digits, perhaps an exponent. -/
def decimal? (cs : List Char) : Option Float := do
  let (whole, rest) := spanDigits cs
  let (fraction, rest) := match rest with
    | '.' :: rest => spanDigits rest
    | rest => ([], rest)
  if whole.isEmpty && fraction.isEmpty then none
  let exponent ← exponent? rest
  finite? (whole ++ fraction) fraction.length exponent

def float? (s : String) : Option Float :=
  if [".inf", ".Inf", ".INF", "+.inf", "+.Inf", "+.INF"].contains s then some (1.0 / 0.0)
  else if ["-.inf", "-.Inf", "-.INF"].contains s then some (-1.0 / 0.0)
  else if [".nan", ".NaN", ".NAN"].contains s then some (0.0 / 0.0)
  else
    match s.toList with
    | '-' :: cs => (decimal? cs).map (-·)
    | '+' :: cs => decimal? cs
    | cs => decimal? cs

/-- The value of a plain scalar. -/
def plainAtom (s : String) : Atom :=
  let cs := s.toList
  if s.isEmpty || nullTexts.contains s then .unit
  else
    let number? := (integerAtom? cs).or (if isPadded cs then none else (float? s).map Atom.float)
    (((flagOfText? s).map Atom.bool).or number?).getD (.text s)

/-! ## Tags -/

/-- The types of the core schema. -/
inductive CoreType
  | bool
  | int
  | float
  | null
deriving DecidableEq, Repr

def coreLead : String := "tag:yaml.org,2002:"

def CoreType.ofTag? (tag : String) : Option CoreType :=
  if tag = coreLead ++ "bool" then some .bool
  else if tag = coreLead ++ "int" then some .int
  else if tag = coreLead ++ "float" then some .float
  else if tag = coreLead ++ "null" then some .null
  else none

/-- A text as a value of a type, if it is one. -/
def CoreType.atom? (t : CoreType) (s : String) : Option Atom :=
  match t with
  | .bool => (flagOfText? s).map .bool
  | .int => integerAtom? s.toList
  | .float => (float? s).map .float
  | .null => if nullTexts.contains s then some .unit else none

/-- Whether a tag is one of the document's own. -/
def isLocal (tag : String) : Bool := tag.startsWith "!"

/-- A scalar with its tag. -/
def scalarOf (text : String) (style : Style) (tag : Option String) : Scalar :=
  let isPlain := style = .plain
  let core? := tag.bind CoreType.ofTag?
  { atom := match core? with
      | some t => (t.atom? text).getD .misfit
      | none => if isPlain && tag.all isLocal then plainAtom text else .text text
    text? := some text
    flag? := if isPlain || (style = .literal && core? = some .bool) then flagOfText? text else none
    absent? :=
      if !isPlain then some false
      else if core? = some .null then (if nullTexts.contains text then some true else none)
      else some (tag.isNone && (text.isEmpty || nullTexts.contains text))
    isHollow := isPlain && text.isEmpty }

end ActivityForge.Yaml
