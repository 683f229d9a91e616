import Stencil.Evaluation.Notation

/-!
# Comparing values

Equality of values, the keys of tables, and the order of numbers, texts and sequences. Numbers are
compared exactly, also integers with doubles. Sets of assets are ordered by inclusion.
-/

namespace Stencil

/-- The exact order of two numbers; `none` when one of them is not a number. -/
def numberOrder? : Value → Value → Option (Option Ordering)
  | .float a, .float b =>
    if a.isNaN || b.isNaN then some none
    else some (some (if a < b then .lt else if a == b then .eq else .gt))
  | .float a, b =>
    b.integer?.map fun i =>
      if a.isNaN then none
      else if a.isInf then some (if a > 0 then .gt else .lt)
      else some (Number.compareInt i a).swap
  | a, .float b =>
    a.integer?.map fun i =>
      if b.isNaN then none
      else if b.isInf then some (if b > 0 then .lt else .gt)
      else some (Number.compareInt i b)
  | a, b => do
    let i ← a.integer?
    let j ← b.integer?
    return some (compare i j)

/-- The text that a value is, if it is one. -/
def Value.text? : Value → Option String
  | .str s => some s
  | .stage s => some s.name
  | .severity s => some s.name
  | _ => Option.none

/-- Whether two values are the same key: numbers by value, texts and tuples by content, other values
by identity. -/
def sameKey : Value → Value → Bool
  | .tuple as, .tuple bs => sameKeys as bs
  | .domain a, .domain b => a.name == b.name
  | .domain a, .str b => a.name == b
  | .str a, .domain b => a == b.name
  | a, b =>
    a.same b || numberOrder? a b == some (some .eq) ||
      match a.text?, b.text? with
      | some s, some t => s == t
      | _, _ => false
where
  /-- Whether two lists of keys agree one by one. -/
  sameKeys : List Value → List Value → Bool
    | [], [] => true
    | a :: as, b :: bs => sameKey a b && sameKeys as bs
    | _, _ => false

instance : BEq Value := ⟨sameKey⟩

/-- Tables as lists of entries in the order in which their keys were first set. -/
abbrev Table := List (Value × Value)

namespace Table

/-- The value of a key. -/
def find? (t : Table) (k : Value) : Option Value := (List.find? (fun e => sameKey e.1 k) t).map (·.2)

/-- A table with one more entry; a key that is present keeps its place. -/
def insert (t : Table) (k v : Value) : Table :=
  if t.any fun e => sameKey e.1 k then t.map fun e => if sameKey e.1 k then (e.1, v) else e
  else t ++ [(k, v)]

/-- A table without a key. -/
def erase (t : Table) (k : Value) : Table := t.filter fun e => !sameKey e.1 k

end Table

namespace Evaluation

open World

/-- Stop unless a value can be a key. -/
def checkKey (v : Value) : Action Unit :=
  match v with
  | .tuple items => go items
  | .slice .. => typeError "unhashable type: 'slice'"
  | .ref r => do
    match ← load r with
    | .list _ | .dict _ | .view .. | .assets .. | .settings _ =>
      typeError ("unhashable type: '" ++ (← typeName v) ++ "'")
    | _ => return ()
  | _ => return ()
where
  /-- Stop unless all values can be keys. -/
  go : List Value → Action Unit
    | [] => return ()
    | v :: rest => do
      checkKey v
      go rest

section

variable (write : Value → Action String)

/-- Whether two values are equal; `write` gives the text of a value that a domain is compared with. -/
def equalsWithin (fuel : Nat) (a b : Value) : Action Bool :=
  match fuel with
  | 0 => tooDeep
  | fuel + 1 => do
    let all (as bs : List Value) : Action Bool := do
      if as.length != bs.length then return false
      for (x, y) in as.zip bs do
        if !x.same y then
          if !(← equalsWithin fuel x y) then return false
      return true
    let named (d : Domain) (v : Value) : Action Bool := do return d.name == (← write v)
    match a, b with
    | .tuple as, .tuple bs => all as bs
    | .range a1 a2 a3, .range b1 b2 b3 =>
      let n := rangeLength a1 a2 a3
      return n == rangeLength b1 b2 b3 && (n == 0 || (a1 == b1 && (n == 1 || a3 == b3)))
    | .domain d, .domain e => return d.name == e.name
    | .domain d, v => named d v
    | v, .domain d => named d v
    | .method s m, .method t n => return m == n && s.same t
    | .bound s f, .bound t g => return s.same t && f.same g
    | .ref r, .ref q =>
      if r == q then return true
      else
        match ← load r, ← load q with
        | .list as, .list bs => all as.toList bs.toList
        | .dict es, .dict fs =>
          if es.length != fs.length then return false
          for e in es do
            match Table.find? fs e.1 with
            | none => return false
            | some v => if !e.2.same v then if !(← equalsWithin fuel e.2 v) then return false
          return true
        | .assets _ as, .assets _ bs => return as.sameMembers bs
        | .config c, .config d =>
          all (ViewConfig.fieldNames.map fun n => (c.get? n).getD .none)
            (ViewConfig.fieldNames.map fun n => (d.get? n).getD .none)
        | .settings s, .settings t =>
          all (ViewerSettings.fieldNames.map s.get) (ViewerSettings.fieldNames.map t.get)
        | _, _ => return false
    | .float x, .float y => return x == y
    | _, _ => return sameKey a b

/-- Whether two values are equal. -/
def equals (a b : Value) : Action Bool := equalsWithin write maxNesting a b

/-- Whether two values are one and the same or equal. -/
def coincide (a b : Value) : Action Bool := do
  if a.same b then return true else equals write a b

end

/-- An order between two values. -/
inductive Order where
  | lt | le | gt | ge
  deriving DecidableEq, Inhabited, Repr

namespace Order

/-- The operator of an order. -/
def symbol : Order → String
  | lt => "<"
  | le => "<="
  | gt => ">"
  | ge => ">="

/-- Whether an order holds of two values that compare in a given way. -/
def holds : Order → Ordering → Bool
  | lt, .lt => true
  | le, .lt => true
  | le, .eq => true
  | gt, .gt => true
  | ge, .gt => true
  | ge, .eq => true
  | _, _ => false

end Order

/-- Whether an order holds between two values. -/
def orderedWithin (write : Value → Action String) (fuel : Nat) (op : Order) (a b : Value) : Action Bool :=
  match fuel with
  | 0 => tooDeep
  | fuel + 1 => do
    let unordered : Action Bool := do
      typeError ("'" ++ op.symbol ++ "' not supported between instances of '" ++ (← typeName a) ++
        "' and '" ++ (← typeName b) ++ "'")
    let rec items : List Value → List Value → Action Bool
      | x :: xs, y :: ys => do
        if ← coincide write x y then items xs ys else orderedWithin write fuel op x y
      | xs, ys => return op.holds (compare xs.length ys.length)
    match numberOrder? a b with
    | some none => return false
    | some (some o) => return op.holds o
    | none =>
      match a.text?, b.text? with
      | some s, some t => return op.holds (compare s t)
      | _, _ =>
        match a, b with
        | .tuple as, .tuple bs => items as bs
        | .ref r, .ref q =>
          match ← load r, ← load q with
          | .list as, .list bs => items as.toList bs.toList
          | .assets _ as, .assets _ bs =>
            return match op with
              | .lt => as.size < bs.size && as.isSubset bs
              | .le => as.size ≤ bs.size && as.isSubset bs
              | .gt => bs.size < as.size && bs.isSubset as
              | .ge => bs.size ≤ as.size && bs.isSubset as
          | _, _ => unordered
        | _, _ => unordered

/-- Whether an order holds between two values. -/
def ordered (write : Value → Action String) (op : Order) (a b : Value) : Action Bool :=
  orderedWithin write maxNesting op a b

end Evaluation

end Stencil
