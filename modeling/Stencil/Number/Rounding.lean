import Stencil.Number.Reading

/-!
# Rounding

Rounding a double to whole numbers or to decimal places, and writing integers in other bases. A half
goes to the even neighbour; the exact value of the double decides.
-/

namespace Stencil.Number

/-- A finite double rounded to an integer. -/
def roundToInt (x : Float) : Int :=
  let b := magnitude x
  let n : Int := roundQuotient (b.m * twoTo b.q.toNat) (twoTo (-b.q).toNat)
  if isNegative x then -n else n

/-- A finite double rounded to decimal places, of which there may be fewer than none. -/
def roundToPlaces (x : Float) (places : Int) : Float :=
  let b := magnitude x
  let num := b.m * twoTo b.q.toNat * tenTo places.toNat
  let den := twoTo (-b.q).toNat * tenTo (-places).toNat
  let n := roundQuotient num den
  ofRatio (isNegative x) (n * tenTo (-places).toNat) (tenTo places.toNat)

/-- An integer rounded to a multiple of a power of ten. -/
def roundToTens (i : Int) (zeros : Nat) : Int :=
  let unit := tenTo zeros
  let n : Int := roundQuotient i.natAbs unit * unit
  if i < 0 then -n else n

/-- The digits of a number in a base up to sixteen, after its sign and the mark of the base. -/
def inBase (base : Nat) (mark : String) (i : Int) : String :=
  (if i < 0 then "-" else "") ++ mark ++ String.ofList (Nat.toDigits base i.natAbs)

/-- The value of a digit or letter in a base up to thirty-six. -/
def digitValue? (c : Char) : Option Nat :=
  if isDigitChar c then some (c.toNat - 48)
  else if 'a' ≤ c && c ≤ 'z' then some (c.toNat - 87)
  else if 'A' ≤ c && c ≤ 'Z' then some (c.toNat - 55)
  else none

/-- The number that digits write in a base. -/
def natInBase? (base : Nat) (ds : List Char) : Option Nat :=
  if ds.isEmpty then none
  else ds.foldlM (fun n c => do
    let d ← digitValue? c
    if d < base then some (n * base + d) else none) 0

/-- The integer that a text writes in a base; the mark of the base may stand in front. -/
def readIntInBase? (base : Nat) (s : String) : Option Int := do
  let (negative, body) := splitSign (asciiDigits (Text.trim Text.isBlank s.toList))
  let marked (letter : Char) : Bool := body.take 2 == ['0', letter] || body.take 2 == ['0', letter.toUpper]
  let (base, digits) :=
    if (base == 16 || base == 0) && marked 'x' then (16, body.drop 2)
    else if (base == 8 || base == 0) && marked 'o' then (8, body.drop 2)
    else if (base == 2 || base == 0) && marked 'b' then (2, body.drop 2)
    else (if base == 0 then 10 else base, body)
  let n : Int ← natInBase? base (digits.filter (· != '_'))
  return if negative then -n else n

end Stencil.Number
