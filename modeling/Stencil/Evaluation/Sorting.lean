import Stencil.Evaluation.Arity

/-!
# Sorting

A stable sort by insertion. A run that is in order already, or in the reverse of it, is kept; each
further item finds its place by halving. An order that fails for two values stops the sort.
-/

namespace Stencil.Evaluation

open World

section

variable {α : Type} (before : α → α → Action Bool)

/-- How many of the items from the second on go on falling or not falling; `falling` says which. -/
def runLength (falling : Bool) (last : α) : List α → Action Nat
  | [] => return 0
  | x :: rest => do
    if (← before x last) == falling then return (← runLength falling x rest) + 1 else return 0

/-- The items in two parts: a sorted one, and those that follow it. -/
def firstRun (items : List α) : Action (List α × List α) := do
  match items with
  | x :: y :: rest =>
    let falling ← before y x
    let n := (← runLength before falling y rest) + 2
    let run := items.take n
    return (if falling then run.reverse else run, items.drop n)
  | items => return (items, [])

/-- The place of an item among sorted items, found by halving what lies between two bounds. -/
def placeOf (x : α) (sorted : Array α) (width low high : Nat) : Action Nat :=
  match width with
  | 0 => return low
  | width + 1 => do
    if low ≥ high then return low
    else
      let middle := low + (high - low) / 2
      match sorted[middle]? with
      | none => return low
      | some y =>
        if ← before x y then placeOf x sorted width low middle
        else placeOf x sorted width (middle + 1) high

/-- Put items into sorted ones, one after another. -/
def insertAll (sorted : Array α) : List α → Action (Array α)
  | [] => return sorted
  | x :: rest => do
    let i ← placeOf before x sorted (sorted.size + 1) 0 sorted.size
    insertAll (sorted.toList.take i ++ x :: sorted.toList.drop i).toArray rest

/-- Items in order. -/
def sortItems (items : List α) : Action (List α) := do
  let (run, rest) ← firstRun before items
  return (← insertAll before run.toArray rest).toList

end

/-- Values in the order of their keys. -/
def sortBy (m : Interpreter) (key : Value) (backward : Bool) (items : List Value) :
    Action (List Value) := do
  let keyed ← items.mapM fun v => do
    match key with
    | .none => return (v, v)
    | f => return (← m.apply f [v], v)
  let before (a b : Value × Value) : Action Bool := ordered m.text .lt a.1 b.1
  let sorted ← sortItems before (if backward then keyed.reverse else keyed)
  return (if backward then sorted.reverse else sorted).map (·.2)

/-- The key and the direction that a sort is given by name. -/
def sortOptions (name : String) (args : Arguments) : Action (Value × Bool) := do
  match args.named.find? fun a => a.1 != "key" && a.1 != "reverse" with
  | some a => typeError ("'" ++ a.1 ++ "' is an invalid keyword argument for " ++ name ++ "()")
  | none =>
    let option (n : String) : Option Value := (args.named.find? (·.1 == n)).map (·.2)
    let backward ← match option "reverse" with
      | none => pure false
      | some v => (· != 0) <$> integerArgument v
    return ((option "key").getD .none, backward)

end Stencil.Evaluation
