import Stencil.Evaluation.Comparison
import Stencil.Number.Reading

/-!
# Operators

What operators make of values. Integers are unbounded and exact; quotients and remainders take the sign
of the divisor, also for doubles. Texts and sequences are joined by sums and repeated by products.
-/

namespace Stencil.Evaluation

open World Script

/-- The symbol of an operator in reports. -/
def symbol : BinaryOp → String
  | .add => "+"
  | .sub => "-"
  | .mul => "*"
  | .matMul => "@"
  | .div => "/"
  | .floorDiv => "//"
  | .mod => "%"
  | .pow => "** or pow()"
  | .shiftLeft => "<<"
  | .shiftRight => ">>"
  | .bitOr => "|"
  | .bitXor => "^"
  | .bitAnd => "&"

/-- The symbol of an operator that assigns. -/
def assigningSymbol : BinaryOp → String
  | .pow => "**="
  | op => symbol op ++ "="

/-- Stop because a division has no result. -/
def zeroDivision {α : Type} (message : String) : Action α := raiseText "ZeroDivisionError" message

/-- Stop because a number is out of range. -/
def overflow {α : Type} (message : String) : Action α := raiseText "OverflowError" message

/-- An integer as a double. -/
def toFloat (i : Int) : Action Float := do
  let x := Number.ofInt i
  if x.isInf then overflow "int too large to convert to float" else return x

/-- A number as a double. -/
def float? (v : Value) : Option (Action Float) :=
  match v with
  | .float x => some (return x)
  | v => v.integer?.map toFloat

/-- A finite double over a power of two: `n · 2^q`. -/
def scaled (x : Float) (q : Int) : Int :=
  let b := Number.magnitude x
  let n : Int := b.m * Number.twoTo (b.q - q).toNat
  if Number.isNegative x then -n else n

/-- The remainder of doubles with the sign of the dividend, which is exact. -/
def floatRemainder (x y : Float) : Float :=
  if y.isInf then x
  else
    let q := min (Number.magnitude x).q (Number.magnitude y).q
    let r := Int.tmod (scaled x q) (scaled y q)
    Number.ofRatio (Number.isNegative x) (r.natAbs * Number.twoTo q.toNat) (Number.twoTo (-q).toNat)

/-- The remainder of doubles with the sign of the divisor. -/
def floatMod (x y : Float) : Float :=
  if x.isNaN || y.isNaN || x.isInf then 0.0 / 0.0
  else
    let r := floatRemainder x y
    if r == 0.0 then if Number.isNegative y then -0.0 else 0.0
    else if Number.isNegative r != Number.isNegative y then r + y
    else r

/-- The quotient of doubles, rounded down. -/
def floatFloorDiv (x y : Float) : Float :=
  if x.isNaN || y.isNaN || x.isInf then 0.0 / 0.0
  else
    let r := floatRemainder x y
    let q := if r != 0.0 && Number.isNegative r != Number.isNegative y then (x - (r + y)) / y else (x - r) / y
    if q == 0.0 then if Number.isNegative x != Number.isNegative y then -0.0 else 0.0
    else
      let f := q.floor
      if q - f > 0.5 then f + 1.0 else f

/-- An operator on integers; `none` when it has no meaning for them. -/
def integerOp? (op : BinaryOp) (a b : Int) : Option (Action Value) :=
  match op with
  | .add => some (return .int (a + b))
  | .sub => some (return .int (a - b))
  | .mul => some (return .int (a * b))
  | .div => some do
    if b == 0 then zeroDivision "division by zero"
    else
      let x := Number.ofRatio ((a < 0) != (b < 0)) a.natAbs b.natAbs
      if x.isInf then overflow "integer division result too large for a float" else return .float x
  | .floorDiv => some do
    if b == 0 then zeroDivision "integer division or modulo by zero" else return .int (Int.fdiv a b)
  | .mod => some do
    if b == 0 then zeroDivision "integer modulo by zero" else return .int (Int.fmod a b)
  | .pow => some do
    if b ≥ 0 then return .int (Int.pow a b.toNat)
    else if a == 0 then zeroDivision "0.0 cannot be raised to a negative power"
    else return .float (Float.pow (← toFloat a) (← toFloat b))
  | .shiftLeft => some do
    if b < 0 then valueError "negative shift count" else return .int (a * Number.twoTo b.toNat)
  | .shiftRight => some do
    if b < 0 then valueError "negative shift count" else return .int (Int.fdiv a (Number.twoTo b.toNat))
  | .bitOr => some (return .int (bitwise Nat.lor a b))
  | .bitXor => some (return .int (bitwise Nat.xor a b))
  | .bitAnd => some (return .int (bitwise Nat.land a b))
  | .matMul => none
where
  /-- A bitwise operator on numbers in two's complement. -/
  bitwise (f : Nat → Nat → Nat) (a b : Int) : Int :=
    let width := (max a.natAbs b.natAbs).log2 + 2
    let size : Int := Number.twoTo width
    let r : Int := f (a % size).toNat (b % size).toNat
    if 2 * r ≥ size then r - size else r

/-- An operator on doubles; `none` when it has no meaning for them. -/
def floatOp? (op : BinaryOp) (x y : Float) : Option (Action Value) :=
  match op with
  | .add => some (return .float (x + y))
  | .sub => some (return .float (x - y))
  | .mul => some (return .float (x * y))
  | .div => some do
    if y == 0.0 then zeroDivision "float division by zero" else return .float (x / y)
  | .floorDiv => some do
    if y == 0.0 then zeroDivision "float floor division by zero" else return .float (floatFloorDiv x y)
  | .mod => some do
    if y == 0.0 then zeroDivision "float modulo" else return .float (floatMod x y)
  | .pow => some do
    if x == 0.0 && y < 0.0 then zeroDivision "0.0 cannot be raised to a negative power"
    else
      let r := Float.pow x y
      if r.isInf && !x.isInf && !y.isInf then
        raise "OverflowError" [.int 34, .str "Numerical result out of range"]
      else return .float r
  | _ => none

/-- An operator on numbers; `none` when one of the values is none or the operator has no meaning. -/
def numberOp? (op : BinaryOp) (a b : Value) : Option (Action Value) :=
  match a, b with
  | .bool x, .bool y =>
    match op with
    | .bitOr => some (return .bool (x || y))
    | .bitXor => some (return .bool (x != y))
    | .bitAnd => some (return .bool (x && y))
    | _ => integerOp? op (if x then 1 else 0) (if y then 1 else 0)
  | a, b =>
    match a.integer?, b.integer? with
    | some i, some j => integerOp? op i j
    | _, _ =>
      match float? a, float? b with
      | some x, some y =>
        match floatOp? op 1.0 1.0 with
        | none => none
        | some _ => some do
          match floatOp? op (← x) (← y) with
          | some r => r
          | none => typeError ""
      | _, _ => none

/-- Copies of a list, one after another. -/
def repeatList {α : Type} (n : Int) (items : List α) : List α :=
  (List.replicate n.toNat items).flatten

/-- Stop because an operator does not take values of these types. -/
def unsupported {α : Type} (shown : String) (a b : Value) : Action α := do
  typeError ("unsupported operand type(s) for " ++ shown ++ ": '" ++ (← typeName a) ++ "' and '" ++
    (← typeName b) ++ "'")

/-- The list that a value is. -/
def list? (v : Value) : Action (Option (List Value)) := do
  match ← object? v with
  | some (.list items) => return some items.toList
  | _ => return none

/-- The set of assets that a value is. -/
def assets? (v : Value) : Action (Option (AssetKind × OrderedSet Value)) := do
  match ← object? v with
  | some (.assets kind refs) => return some (kind, refs)
  | _ => return none

/-- The table that a value is. -/
def table? (v : Value) : Action (Option Table) := do
  match ← object? v with
  | some (.dict entries) => return some entries
  | _ => return none

/-- A sum in which a sequence or a text takes part; `none` when none does on the left. -/
def concatenation? (a b : Value) : Action (Option Value) := do
  let refuse (kind : String) : Action (Option Value) := do
    typeError ("can only concatenate " ++ kind ++ " (not \"" ++ (← typeName b) ++ "\") to " ++ kind)
  match a.text? with
  | some s =>
    match b.text? with
    | some t => return some (.str (s ++ t))
    | none => refuse "str"
  | none =>
    match a with
    | .tuple as =>
      match b with
      | .tuple bs => return some (.tuple (as ++ bs))
      | _ => refuse "tuple"
    | _ =>
      match ← list? a with
      | some as =>
        match ← list? b with
        | some bs => return some (← newList (as ++ bs))
        | none => refuse "list"
      | none => return none

/-- The product of a text or sequence and a number; `none` when the first is neither. -/
def repetition? (v : Value) (times : Value) : Action (Option Value) := do
  let count : Action Int := do
    match times.integer? with
    | some n => return n
    | none => typeError ("can't multiply sequence by non-int of type '" ++ (← typeName times) ++ "'")
  match v.text? with
  | some s => return some (.str (String.ofList (repeatList (← count) s.toList)))
  | none =>
    match v with
    | .tuple items => return some (.tuple (repeatList (← count) items))
    | _ =>
      match ← list? v with
      | some items => return some (← newList (repeatList (← count) items))
      | none => return none

/-- Whether a value can be iterated, so that a set can be made of it. -/
def isIterable (v : Value) : Action Bool := do
  match v with
  | .str _ | .tuple _ | .range .. | .stage _ | .severity _ => return true
  | .ref r =>
    match ← load r with
    | .list _ | .dict _ | .view .. | .iterator _ | .assets .. | .registry _ => return true
    | .instance cls _ => return (← classAt cls).kind == .view
    | _ => return false
  | _ => return false

/-- The result of an operator on sets of assets, one of which may be any iterable value; `collect`
gives the items of a value. -/
def setOp? (collect : Value → Action (List Value)) (op : BinaryOp) (a b : Value) :
    Action (Option Value) := do
  let made (kind : AssetKind) (s : OrderedSet Value) : Action (Option Value) :=
    return some (← allocValue (.assets kind s))
  let operand (v : Value) : Action (OrderedSet Value) := do
    match ← assets? v with
    | some (_, refs) => return refs
    | none =>
      let items ← collect v
      items.forM checkKey
      return OrderedSet.ofList items
  let combine (kind : AssetKind) (x y : OrderedSet Value) : Action (Option Value) :=
    match op with
    | .bitOr => made kind (OrderedSet.ofList (x.toList ++ y.toList))
    | .bitAnd => made kind (x.inter y)
    | .sub => made kind (x.diff y)
    | .bitXor => made kind (x.symmDiff y)
    | _ => return none
  match op with
  | .bitOr | .bitAnd | .sub | .bitXor =>
    match ← assets? a, ← assets? b with
    | some (kind, x), _ => if ← isIterable b then combine kind x (← operand b) else return none
    | none, some (kind, y) =>
      if ← isIterable a then
        match op with
        -- A set on the right takes what is on its left as the right operand, except in differences.
        | .sub => combine kind (← operand a) y
        | _ => combine kind y (← operand a)
      else return none
    | none, none => return none
  | _ => return none

/-- What an operator makes of two values. `shown` is the operator in reports, `percent` lays out a
text with the values on the right of a percent sign. -/
def binary (collect : Value → Action (List Value)) (percent : String → Value → Action Value)
    (shown : String) (op : BinaryOp) (a b : Value) : Action Value := do
  match numberOp? op a b with
  | some r => r
  | none =>
    let other : Action Value := do
      match ← setOp? collect op a b with
      | some v => return v
      | none =>
        match op, ← table? a, ← table? b with
        | .bitOr, some x, some y =>
          allocValue (.dict (y.foldl (fun (t : Table) e => t.insert e.1 e.2) x))
        | _, _, _ => unsupported shown a b
    match op with
    | .add =>
      match ← concatenation? a b with
      | some v => return v
      | none => other
    | .mul =>
      match ← repetition? a b with
      | some v => return v
      | none =>
        match ← repetition? b a with
        | some v => return v
        | none => other
    | .mod =>
      match a.text? with
      | some s => percent s b
      | none => other
    | _ => other

/-- What a sign makes of a value. -/
def unary (op : UnaryOp) (v : Value) : Action Value := do
  let refuse (sign : String) : Action Value := do
    typeError ("bad operand type for unary " ++ sign ++ ": '" ++ (← typeName v) ++ "'")
  match op, v with
  | .not, v => return .bool !(← truth v)
  | .minus, .float x => return .float (-x)
  | .plus, .float x => return .float x
  | .minus, v =>
    match v.integer? with
    | some i => return .int (-i)
    | none => refuse "-"
  | .plus, v =>
    match v.integer? with
    | some i => return .int i
    | none => refuse "+"
  | .invert, v =>
    match v.integer? with
    | some i => return .int (-i - 1)
    | none => refuse "~"

end Stencil.Evaluation
