import ActivityForge.Text.Category

/-!
# String literals

`literal` writes a text as a quoted literal of the generated language: quotes, backslashes and
the usual controls have short escapes, and every other character that is not shown as itself is
written by its code point, as `\u{…}`.
-/

namespace ActivityForge.Text

/-- The digits of `n` in lower case hexadecimal, without leading zeros. -/
def hexDigits (n : Nat) : List Char := Nat.toDigits 16 n

/-- One character inside a literal. -/
def escapeChar (c : Char) : List Char :=
  if c = '\x00' then ['\\', '0']
  else if c = '\t' then ['\\', 't']
  else if c = '\n' then ['\\', 'n']
  else if c = '\r' then ['\\', 'r']
  else if c = '"' then ['\\', '"']
  else if c = '\\' then ['\\', '\\']
  else if extendsGrapheme c || !isPrintable c then
    ['\\', 'u', '\x7b'] ++ hexDigits c.toNat ++ ['\x7d']
  else [c]

def literalChars (cs : List Char) : List Char := '"' :: cs.flatMap escapeChar ++ ['"']

/-- The quoted literal that denotes `s`. -/
def literal (s : String) : String := String.ofList (literalChars s.toList)

end ActivityForge.Text
