/-!
# Binary fractions

A finite double is a sign and a magnitude `m · 2^q` with `m < 2^53`. This module takes doubles apart and
rounds exact quotients of natural numbers to the nearest double, a tie going to the even neighbour.
-/

namespace Stencil.Number

/-- A power of two. -/
def twoTo (n : Nat) : Nat := Nat.pow 2 n

/-- A power of ten. -/
def tenTo (n : Nat) : Nat := Nat.pow 10 n

/-- The magnitude of a finite double: `m · 2^q`. -/
structure Binary where
  m : Nat
  q : Int
  deriving DecidableEq, Repr

/-- Whether the sign bit is set. -/
def isNegative (x : Float) : Bool := x.toBits.toNat ≥ twoTo 63

/-- The magnitude of a double; meaningful when it is finite. -/
def magnitude (x : Float) : Binary :=
  let bits : Nat := x.toBits.toNat % twoTo 63
  let exponent : Nat := bits / twoTo 52
  let fraction : Nat := bits % twoTo 52
  if exponent = 0 then ⟨fraction, -1074⟩ else ⟨fraction + twoTo 52, (exponent : Int) - 1075⟩

/-- The double with the given sign and the bits of a magnitude. -/
def ofMagnitudeBits (negative : Bool) (bits : Nat) : Float :=
  Float.ofBits (UInt64.ofNat (bits + if negative then twoTo 63 else 0))

/-- The bits of positive infinity. -/
def infinityBits : Nat := 0x7FF * twoTo 52

/-- Positive infinity. -/
def infinity : Float := ofMagnitudeBits false infinityBits

/-- A quotient rounded to the nearest integer, a tie going to the even one. -/
def roundQuotient (num den : Nat) : Nat :=
  let d := num / den
  let r := num % den
  if 2 * r < den then d
  else if den < 2 * r then d + 1
  else d + d % 2

/-- The bits of the double nearest to a quotient of natural numbers; `den` is positive. -/
def nearestBits (num den : Nat) : Nat :=
  if num = 0 then 0
  else
    -- The power of two of the last place: the quotient has 53 binary digits above it, when it can.
    let guess : Int := (num.log2 : Int) - den.log2 - 52
    let q := max (if num * twoTo (-guess).toNat < twoTo 52 * den * twoTo guess.toNat then guess - 1 else guess)
      (-1074)
    let m := roundQuotient (num * twoTo (-q).toNat) (den * twoTo q.toNat)
    -- A carry out of the fraction moves on to the exponent by itself.
    let bits := if m < twoTo 52 then m else (q + 1074).toNat * twoTo 52 + m
    min bits infinityBits

/-- The double nearest to a quotient of natural numbers. -/
def ofRatio (negative : Bool) (num den : Nat) : Float := ofMagnitudeBits negative (nearestBits num den)

/-- The double nearest to an integer. -/
def ofInt (i : Int) : Float := ofRatio (i < 0) i.natAbs 1

/-- The integer part of a finite double. -/
def truncate (x : Float) : Int :=
  let b := magnitude x
  let n := b.m * twoTo b.q.toNat / twoTo (-b.q).toNat
  if isNegative x then -(n : Int) else n

/-- The order of an integer and a finite double, decided exactly. -/
def compareInt (i : Int) (x : Float) : Ordering :=
  let b := magnitude x
  let m : Int := if isNegative x then -(b.m : Int) else b.m
  compare (i * (twoTo (-b.q).toNat : Nat)) (m * (twoTo b.q.toNat : Nat))

end Stencil.Number
