import Stencil.Evaluation.Arity
import Stencil.Number.Rounding

/-!
# Laying out texts with percent signs

A percent sign in a text takes a value: as text, as its notation, or as a number with a width and a
number of decimal places. Several values come in a tuple, values by name in a table.
-/

namespace Stencil.Evaluation

open World

/-- How a value is laid out. -/
structure Slot where
  name : Option String := none
  flags : List Char := []
  width : Nat := 0
  precision : Option Nat := none
  conversion : Char := 's'

namespace Slot

/-- A text with the width of a slot; numbers may be filled with zeros after their sign. -/
def pad (s : Slot) (numeric : Bool) (text : List Char) : List Char :=
  let missing := s.width - text.length
  if s.flags.contains '-' then text ++ List.replicate missing ' '
  else if numeric && s.flags.contains '0' then
    match text with
    | c :: cs =>
      if c == '-' || c == '+' || c == ' ' then c :: List.replicate missing '0' ++ cs
      else List.replicate missing '0' ++ text
    | [] => List.replicate missing '0'
  else List.replicate missing ' ' ++ text

/-- The sign that a number is written with. -/
def sign (s : Slot) (negative : Bool) : List Char :=
  if negative then ['-']
  else if s.flags.contains '+' then ['+']
  else if s.flags.contains ' ' then [' ']
  else []

end Slot

/-- A finite double with a number of decimal places, without its sign. -/
def fixedPlaces (x : Float) (places : Nat) : List Char :=
  let b := Number.magnitude x
  let n := Number.roundQuotient (b.m * Number.twoTo b.q.toNat * Number.tenTo places) (Number.twoTo (-b.q).toNat)
  let ds := Nat.toDigits 10 n
  let ds := List.replicate (places + 1 - ds.length) '0' ++ ds
  let whole := ds.take (ds.length - places)
  if places = 0 then whole else whole ++ '.' :: ds.drop (ds.length - places)

/-- A natural number at the head of a text, and what follows. -/
def leadingNat (s : List Char) : Option Nat × List Char :=
  let ds := s.takeWhile Number.isDigitChar
  (if ds.isEmpty then none else some (Number.natOfDigits ds), s.drop ds.length)

/-- The slot after a percent sign, and what follows. -/
def readSlot (s : List Char) : Action (Slot × List Char) := do
  let (name, s) := match s with
    | '(' :: rest =>
      (some (String.ofList (rest.takeWhile (· != ')'))), (rest.dropWhile (· != ')')).drop 1)
    | _ => (none, s)
  let flags := s.takeWhile fun c => ['#', '0', '-', ' ', '+'].contains c
  let (width, s) := leadingNat (s.drop flags.length)
  let (precision, s) := match s with
    | '.' :: rest =>
      let (n, more) := leadingNat rest
      (some (n.getD 0), more)
    | _ => (none, s)
  match s with
  | c :: rest => return ({ name, flags, width := width.getD 0, precision, conversion := c }, rest)
  | [] => valueError "incomplete format"

/-- A value as a slot lays it out. -/
def fillSlot (m : Interpreter) (s : Slot) (place : Nat) (v : Value) : Action (List Char) := do
  let cut (text : String) : List Char :=
    s.pad false (match s.precision with
      | some n => text.toList.take n
      | none => text.toList)
  let required : Action (List Char) := do
    typeError ("%" ++ s.conversion.toString ++ " format: a real number is required, not " ++
      (← typeName v))
  let whole (base : Nat) (i : Int) : List Char :=
    let ds := Nat.toDigits base i.natAbs
    let ds := List.replicate ((s.precision.getD 0) - ds.length) '0' ++ ds
    let ds := if s.conversion == 'X' then ds.map Char.toUpper else ds
    s.pad true (s.sign (i < 0) ++ ds)
  match s.conversion with
  | 's' => return cut (← m.text v)
  | 'r' => return cut (← reprOf v)
  | 'a' => return cut (← reprOf v)
  | 'd' | 'i' | 'u' =>
    match v with
    | .float x => return whole 10 (Number.truncate x)
    | v =>
      match v.integer? with
      | some i => return whole 10 i
      | none => required
  | 'x' | 'X' | 'o' =>
    match v.integer? with
    | some i => return whole (if s.conversion == 'o' then 8 else 16) i
    | none =>
      typeError ("%" ++ s.conversion.toString ++ " format: an integer is required, not " ++
        (← typeName v))
  | 'f' | 'F' =>
    match float? v with
    | some x =>
      let x ← x
      if x.isNaN then return s.pad false "nan".toList
      else
        let body := if x.isInf then "inf".toList else fixedPlaces x (s.precision.getD 6)
        return s.pad true (s.sign (Number.isNegative x) ++ body)
    | none => typeError ("must be real number, not " ++ (← typeName v))
  | 'c' =>
    match v.text?.map String.toList, v.integer? with
    | some [c], _ => return s.pad false [c]
    | _, some i => return s.pad false [Char.ofNat i.toNat]
    | _, _ => typeError "%c requires int or char"
  | c =>
    valueError ("unsupported format character '" ++ c.toString ++ "' (0x" ++
      String.ofList (Nat.toDigits 16 c.toNat) ++ ") at index " ++ Text.natText place)

/-- The values that a text is laid out with. -/
structure Supply where
  items : List Value
  /-- The table that names are looked up in. -/
  table : Option Table
  /-- Whether all values must be used. -/
  strict : Bool

/-- Lay out the rest of a text; `place` is the index of its first character. -/
def layOut (m : Interpreter) (fuel place : Nat) (supply : Supply) (s : List Char) :
    Action (List Char) :=
  match fuel, s with
  | _, [] =>
    if supply.strict && !supply.items.isEmpty then
      typeError "not all arguments converted during string formatting"
    else return []
  | 0, _ => throw .exhausted
  | fuel + 1, '%' :: '%' :: rest => do return '%' :: (← layOut m fuel (place + 2) supply rest)
  | fuel + 1, '%' :: rest => do
    let (slot, after) ← readSlot rest
    let next := place + 1 + (rest.length - after.length)
    match slot.name with
    | some n =>
      match supply.table with
      | none => typeError "format requires a mapping"
      | some t =>
        match Table.find? t (.str n) with
        | none => missingKey (.str n)
        | some v =>
          let text ← fillSlot m slot (next - 1) v
          return text ++ (← layOut m fuel next { supply with strict := false } after)
    | none =>
      match supply.items with
      | [] => typeError "not enough arguments for format string"
      | v :: more =>
        let text ← fillSlot m slot (next - 1) v
        return text ++ (← layOut m fuel next { supply with items := more } after)
  | fuel + 1, c :: rest => do return c :: (← layOut m fuel (place + 1) supply rest)

/-- A text laid out with values. -/
def percent (m : Interpreter) (s : String) (v : Value) : Action Value := do
  let table ← table? v
  let isList := (← list? v).isSome
  let supply : Supply := match v with
    | .tuple items => { items, table := none, strict := true }
    | v => { items := [v], table, strict := table.isNone && !isList }
  let cs := s.toList
  return ofList (← layOut m (cs.length + 1) 0 supply cs)
where
  /-- Characters as a text. -/
  ofList (cs : List Char) : Value := .str (String.ofList cs)

end Stencil.Evaluation
