import Stencil.Evaluation.Iteration

/-!
# Items by index

Reading, setting and deleting items of sequences and tables. An index below zero counts from the end. A
slice is cut to the sequence first, so it never fails for being out of range.
-/

namespace Stencil.Evaluation

open World

/-- The items that a slice selects: the first index, the step and their number. -/
structure Selection where
  first : Int
  step : Int
  count : Nat

namespace Selection

/-- The selected indices in the order of the slice. -/
def indices (s : Selection) : List Nat :=
  (List.range s.count).map fun (i : Nat) => (s.first + (i : Int) * s.step).toNat

/-- The selected items. -/
def pick {α : Type} (s : Selection) (items : List α) : List α :=
  let all := items.toArray
  s.indices.filterMap fun i => all[i]?

end Selection

/-- A bound of a slice, cut to a sequence of a given length. -/
def clampBound (length : Int) (step : Int) (bound : Int) : Int :=
  if bound < 0 then
    if bound + length < 0 then (if step < 0 then -1 else 0) else bound + length
  else if bound ≥ length then (if step < 0 then length - 1 else length)
  else bound

/-- What a slice selects of a sequence of a given length. -/
def selection (length : Nat) (start stop step : Value) : Action Selection := do
  let whole (v : Value) : Action Int := do
    match v.integer? with
    | some i => return i
    | none => typeError "slice indices must be integers or None or have an __index__ method"
  let n : Int := length
  let by' ← match step with
    | .none => pure 1
    | v => whole v
  if by' == 0 then valueError "slice step cannot be zero"
  else
    let first ← match start with
      | .none => pure (if by' < 0 then n - 1 else 0)
      | v => clampBound n by' <$> whole v
    let last ← match stop with
      | .none => pure (if by' < 0 then -1 else n)
      | v => clampBound n by' <$> whole v
    return { first, step := by', count := rangeLength first last by' }

/-- An index that counts from the end when it is below zero; `none` out of range. -/
def position? (length : Nat) (i : Int) : Option Nat :=
  let j := if i < 0 then i + length else i
  if j < 0 || j ≥ length then none else some j.toNat

/-- The item of a sequence by index or slice. `kind` is the type of the sequence in reports. -/
def itemOf (kind : String) (items : List Value) (rebuild : List Value → Action Value) (index : Value) :
    Action Value := do
  match index with
  | .slice a b c => rebuild ((← selection items.length a b c).pick items)
  | index =>
    match index.integer? with
    | some i =>
      match (position? items.length i).bind (items[·]?) with
      | some v => return v
      | none => raiseText "IndexError" (kind ++ " index out of range")
    | none =>
      typeError (kind ++ " indices must be integers or slices, not " ++ (← typeName index))

/-- The character or part of a text by index or slice. -/
def characterOf (s : String) (index : Value) : Action Value := do
  let cs := s.toList
  match index with
  | .slice a b c => return .str (String.ofList ((← selection cs.length a b c).pick cs))
  | index =>
    match index.integer? with
    | some i =>
      match (position? cs.length i).bind (cs[·]?) with
      | some c => return .str c.toString
      | none => raiseText "IndexError" "string index out of range"
    | none => typeError ("string indices must be integers, not '" ++ (← typeName index) ++ "'")

/-- Stop because a table lacks a key. -/
def missingKey {α : Type} (key : Value) : Action α := raise "KeyError" [key]

/-- The item of a value by index. -/
def item (v index : Value) : Action Value := do
  match v.text? with
  | some s => characterOf s index
  | none =>
    match v with
    | .tuple items => itemOf "tuple" items (fun vs => return .tuple vs) index
    | .range a b c =>
      let n := rangeLength a b c
      match index with
      | .slice x y z =>
        let s ← selection n x y z
        return .range (a + s.first * c) (a + (s.first + s.count * s.step) * c) (c * s.step)
      | index =>
        match index.integer? with
        | some i =>
          match position? n i with
          | some j => return .int (a + j * c)
          | none => raiseText "IndexError" "range object index out of range"
        | none => typeError ("range indices must be integers or slices, not " ++ (← typeName index))
    | .type t => typeError ("type '" ++ (← nameOfType t) ++ "' is not subscriptable")
    | v =>
      match ← object? v with
      | some (.list items) => itemOf "list" items.toList newList index
      | some (.dict entries) =>
        checkKey index
        match Table.find? entries index with
        | some x => return x
        | none => missingKey index
      | _ => typeError ("'" ++ (← typeName v) ++ "' object is not subscriptable")

/-- The position that an index has in a list that is changed. -/
def changedPosition (length : Nat) (index : Value) : Action Nat := do
  match index.integer? with
  | some i =>
    match position? length i with
    | some j => return j
    | none => raiseText "IndexError" "list assignment index out of range"
  | none => typeError ("list indices must be integers or slices, not " ++ (← typeName index))

/-- Set an item of a value. -/
def setItem (m : Interpreter) (v index x : Value) : Action Unit := do
  match v, ← object? v with
  | .ref r, some (.list items) =>
    match index with
    | .slice a b c =>
      let new ← (do
        match ← iterator? x with
        | some it => drain m it
        | none => typeError "can only assign an iterable" : Action (List Value))
      let s ← selection items.size a b c
      if s.step == 1 then
        let first := s.first.toNat
        let l := items.toList
        store r (.list (l.take first ++ new ++ l.drop (first + s.count)).toArray)
      else if new.length != s.count then
        valueError ("attempt to assign sequence of size " ++ Text.natText new.length ++
          " to extended slice of size " ++ Text.natText s.count)
      else
        store r (.list ((s.indices.zip new).foldl (fun acc p => acc.setIfInBounds p.1 p.2) items))
    | index => store r (.list (items.setIfInBounds (← changedPosition items.size index) x))
  | .ref r, some (.dict entries) =>
    checkKey index
    store r (.dict (Table.insert entries index x))
  | v, _ => typeError ("'" ++ (← typeName v) ++ "' object does not support item assignment")

/-- Delete an item of a value. -/
def deleteItem (v index : Value) : Action Unit := do
  match v, ← object? v with
  | .ref r, some (.list items) =>
    match index with
    | .slice a b c =>
      let gone := (← selection items.size a b c).indices
      let kept := items.toList.zipIdx.filter fun p => !gone.contains p.2
      store r (.list (kept.map (·.1)).toArray)
    | index =>
      let i ← changedPosition items.size index
      store r (.list (items.toList.eraseIdx i).toArray)
  | .ref r, some (.dict entries) =>
    checkKey index
    if (Table.find? entries index).isSome then store r (.dict (Table.erase entries index))
    else missingKey index
  | v, _ => typeError ("'" ++ (← typeName v) ++ "' object doesn't support item deletion")

end Stencil.Evaluation
