import Stencil.Number.Binary
import Stencil.Text.Lines
import Stencil.Text.Casing

/-!
# Reading numbers

Whole and decimal numbers as a setting or an input text writes them: blanks around, a sign, decimal
digits of any script and single underscores between digits.
-/

namespace Stencil.Number

/-- The most digits of a whole number that is read or written in decimal. -/
def maxDigits : Nat := 4300

/-- The least number with more digits than that. -/
def digitLimit : Nat := tenTo maxDigits

/-- What is reported of a number with more digits. -/
def tooManyDigits : String :=
  "Exceeds the limit (" ++ Text.natText maxDigits ++ " digits) for integer string conversion"

/-- What is advised then. -/
def raiseLimit : String := "; use sys.set_int_max_str_digits() to increase the limit"

/-- A text with every decimal digit as its ASCII digit. -/
def asciiDigits (s : List Char) : List Char :=
  s.map fun c => match Text.decimalValue? c with
    | some v => Char.ofNat (48 + v)
    | none => c

/-- An ASCII digit. -/
def isDigitChar (c : Char) : Bool := '0' ≤ c && c ≤ '9'

/-- Digits with single underscores between them, without the underscores. -/
def joinedDigits : List Char → Option (List Char)
  | [] => none
  | [c] => if isDigitChar c then some [c] else none
  | c :: '_' :: rest => if isDigitChar c then (joinedDigits rest).map (c :: ·) else none
  | c :: rest => if isDigitChar c then (joinedDigits rest).map (c :: ·) else none

/-- The number that ASCII digits write. -/
def natOfDigits (ds : List Char) : Nat := ds.foldl (fun n c => 10 * n + (c.toNat - 48)) 0

/-- A sign and what follows it. -/
def splitSign : List Char → Bool × List Char
  | '+' :: rest => (false, rest)
  | '-' :: rest => (true, rest)
  | rest => (false, rest)

/-- How many digits a text has that writes a whole number. -/
def digitCount? (s : String) : Option Nat :=
  (joinedDigits (splitSign (asciiDigits (Text.trim Text.isBlank s.toList))).2).map List.length

/-- The whole number that a text writes; none when it has too many digits. -/
def readInt? (s : String) : Option Int :=
  let (negative, body) := splitSign (asciiDigits (Text.trim Text.isBlank s.toList))
  match joinedDigits body with
  | some ds =>
    if ds.length > maxDigits then none
    else some (if negative then -(natOfDigits ds : Int) else natOfDigits ds)
  | none => none

/-- A text without the underscores that stand between two digits; `none` when one stands elsewhere. -/
def dropUnderscores : List Char → Option (List Char)
  | [] => some []
  | '_' :: _ => none
  | c :: '_' :: d :: rest =>
    if isDigitChar c && isDigitChar d then (dropUnderscores (d :: rest)).map (c :: ·) else none
  | c :: rest => (dropUnderscores rest).map (c :: ·)

/-- The double that `digits · 10^exponent` rounds to. Exponents far out of range are cut off first. -/
def ofScientific (negative : Bool) (digits : Nat) (exponent : Int) : Float :=
  if digits = 0 then ofRatio negative 0 1
  else
    let point := exponent + (Nat.toDigits 10 digits).length
    if point > 400 then ofMagnitudeBits negative infinityBits
    else if point < -400 then ofRatio negative 0 1
    else ofRatio negative (digits * tenTo exponent.toNat) (tenTo (-exponent).toNat)

/-- The decimal number that ASCII text without a sign writes, with its exponent. -/
def readDecimal? (negative : Bool) (s : List Char) : Option Float :=
  let whole := s.takeWhile isDigitChar
  let afterWhole := s.drop whole.length
  let (fraction, afterFraction) := match afterWhole with
    | '.' :: rest => (rest.takeWhile isDigitChar, rest.dropWhile isDigitChar)
    | rest => ([], rest)
  if whole.isEmpty && fraction.isEmpty then none
  else
    let mantissa := natOfDigits (whole ++ fraction)
    match afterFraction with
    | [] => some (ofScientific negative mantissa (-fraction.length))
    | c :: rest =>
      if c == 'e' || c == 'E' then
        let (down, ds) := splitSign rest
        if ds.isEmpty || !ds.all isDigitChar then none
        else
          let e : Int := if down then -(natOfDigits ds : Int) else natOfDigits ds
          some (ofScientific negative mantissa (e - fraction.length))
      else none

/-- The double that a text writes. -/
def readFloat? (s : String) : Option Float :=
  match dropUnderscores (asciiDigits (Text.trim Text.isBlank s.toList)) with
  | none => none
  | some body =>
    let (negative, rest) := splitSign body
    let word := Text.lower (String.ofList rest)
    if word = "inf" || word = "infinity" then some (ofMagnitudeBits negative infinityBits)
    else if word = "nan" then some (0.0 / 0.0)
    else readDecimal? negative rest

end Stencil.Number
