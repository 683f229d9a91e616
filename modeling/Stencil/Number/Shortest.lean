import Stencil.Number.Binary
import Stencil.Text.Lines

/-!
# Shortest decimal text

The decimal text of a double has the fewest digits that read back as the same double, and of those the
nearest. It is positional from `0.0001` to below `10^16` and scientific outside.
-/

namespace Stencil.Number

/-- A decimal `digits · 10^exponent`. -/
structure Decimal where
  digits : Nat
  exponent : Int
  deriving DecidableEq, Repr

/-- The numbers that a magnitude stands for when it is rounded to: its value and the ends of its
interval, all over one denominator. -/
structure Interval where
  value : Nat
  low : Nat
  high : Nat
  denominator : Nat
  /-- The ends themselves round to the magnitude. -/
  closed : Bool

/-- The rounding interval of a positive magnitude. -/
def Binary.interval (b : Binary) : Interval :=
  let up := twoTo (b.q - 2).toNat
  let down := twoTo (2 - b.q).toNat
  let belowIsCloser := b.m = twoTo 52 && b.q > -1074
  { value := 4 * b.m * up
    low := (4 * b.m - if belowIsCloser then 1 else 2) * up
    high := (4 * b.m + 2) * up
    denominator := down
    closed := b.m % 2 = 0 }

/-- Whether `digits · 10^exponent` lies in an interval. -/
def Interval.contains (i : Interval) (d : Decimal) : Bool :=
  let n := d.digits * tenTo d.exponent.toNat * i.denominator
  let scale := tenTo (-d.exponent).toNat
  if i.closed then i.low * scale ≤ n && n ≤ i.high * scale
  else i.low * scale < n && n < i.high * scale

/-- The grid point at or below the value of an interval. -/
def Interval.below (i : Interval) (exponent : Int) : Decimal :=
  ⟨i.value * tenTo (-exponent).toNat / (i.denominator * tenTo exponent.toNat), exponent⟩

/-- How often a quotient is multiplied by ten until it reaches one, looking at most `fuel` times. -/
def raisesToOne (num den : Nat) : Nat → Nat
  | 0 => 0
  | fuel + 1 => if num < den then raisesToOne (num * 10) den fuel + 1 else 0

/-- The power of ten of the first digit of an interval's value. -/
def Interval.leading (i : Interval) : Int :=
  let whole := i.value / i.denominator
  if whole = 0 then -(raisesToOne i.value i.denominator 400 : Int)
  else ((Nat.toDigits 10 whole).length : Int) - 1

/-- The nearer of the value's two neighbours on a grid, if one lies in the interval. -/
def Interval.nearest? (i : Interval) (exponent : Int) : Option Decimal :=
  let a := i.below exponent
  let b : Decimal := ⟨a.digits + 1, exponent⟩
  match i.contains a, i.contains b with
  | true, true =>
    let unit := i.denominator * tenTo exponent.toNat
    let r := i.value * tenTo (-exponent).toNat % unit
    if 2 * r < unit || (2 * r = unit && a.digits % 2 = 0) then some a else some b
  | true, false => some a
  | false, true => some b
  | false, false => none

/-- The shortest decimal of an interval: the coarsest grid with a point inside it. -/
def Interval.shortest (i : Interval) : Decimal :=
  let lead := i.leading
  ((List.range 18).findSome? fun n : Nat => i.nearest? (lead - n)).getD (i.below (lead - 17))

/-- Digits without the zeros at their end. -/
def trimZeros (digits : List Char) : List Char := Text.trimEnd (· == '0') digits

/-- The exponent of a scientific text: a sign and at least two digits. -/
def exponentText (e : Int) : List Char :=
  let ds := Nat.toDigits 10 e.natAbs
  'e' :: (if e < 0 then '-' else '+') :: (if ds.length < 2 then '0' :: ds else ds)

/-- The text of digits whose point stands after `point` of them. -/
def layout (digits : List Char) (point : Int) : List Char :=
  if -4 < point && point ≤ 16 then
    if point ≤ 0 then '0' :: '.' :: (List.replicate (-point).toNat '0' ++ digits)
    else
      let whole := digits.take point.toNat
      let fraction := digits.drop point.toNat
      whole ++ List.replicate (point.toNat - whole.length) '0' ++
        '.' :: (if fraction.isEmpty then ['0'] else fraction)
  else
    let tail := match digits.drop 1 with
      | [] => []
      | rest => '.' :: rest
    digits.take 1 ++ tail ++ exponentText (point - 1)

/-- The shortest text that reads back as the double. -/
def floatText (x : Float) : String :=
  if x.isNaN then "nan"
  else
    let sign := if isNegative x then ['-'] else []
    let body :=
      if x.isInf then "inf".toList
      else if (magnitude x).m = 0 then "0.0".toList
      else
        let d := (magnitude x).interval.shortest
        let all := Nat.toDigits 10 d.digits
        layout (trimZeros all) (all.length + d.exponent)
    String.ofList (sign ++ body)

end Stencil.Number
