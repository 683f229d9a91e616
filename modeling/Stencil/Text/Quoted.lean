import Stencil.Text.Printable

/-!
# Quoted text

The quoted form of a text stands between apostrophes, or between quotation marks when the text holds
an apostrophe and no quotation mark. Inside, the delimiter and the backslash are escaped, and every
character that is not printable is written by its number, so a quoted form never holds a line break.
-/

namespace Stencil.Text.Quoted

/-- The delimiter of the quoted form of a text. -/
def delimiter (s : List Char) : Char :=
  if s.contains '\'' && !s.contains '"' then '"' else '\''

/-- A hexadecimal digit in lower case. -/
def hexDigit (n : Nat) : Char :=
  if n < 10 then Char.ofNat (48 + n) else Char.ofNat (87 + n)

/-- The last `width` hexadecimal digits of a number. -/
def hex (n : Nat) : Nat → List Char
  | 0 => []
  | width + 1 => hex (n / 16) width ++ [hexDigit (n % 16)]

/-- The escape of a character that is not printable: by its number in two, four or eight digits. -/
def numbered (c : Char) : List Char :=
  let n := c.toNat
  if n < 0x100 then '\\' :: 'x' :: hex n 2
  else if n < 0x10000 then '\\' :: 'u' :: hex n 4
  else '\\' :: 'U' :: hex n 8

/-- One character inside a quoted form with the given delimiter. -/
def escape (quote c : Char) : List Char :=
  if c == quote || c == '\\' then ['\\', c]
  else if c == '\n' then ['\\', 'n']
  else if c == '\r' then ['\\', 'r']
  else if c == '\t' then ['\\', 't']
  else if isPrintable c then [c]
  else numbered c

/-- The quoted form of a text. -/
def encode (s : List Char) : List Char :=
  let quote := delimiter s
  quote :: (s.flatMap (escape quote) ++ [quote])

end Quoted

/-- The quoted form of a text. -/
def quoted (s : String) : String := String.ofList (Quoted.encode s.toList)

end Stencil.Text
