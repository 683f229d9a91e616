import Stencil.Evaluation.Interpreter

/-!
# Iteration

Going through the items of a value, one at a time. Lists may change while they are gone through, tables
may not change their size.
-/

namespace Stencil.Evaluation

open World

/-- Stop because a value is not iterable. -/
def notIterable {α : Type} (v : Value) : Action α := do
  typeError ("'" ++ (← typeName v) ++ "' object is not iterable")

/-- An iterator over values that are known. -/
def iteratorOf (items : List Value) : Action Ref := alloc (.iterator (.values items none))

/-- The characters of a text as values. -/
def characters (s : String) : List Value := s.toList.map fun c => .str c.toString

/-- The keys, values or entries of a table. -/
def tablePart (part : String) (entries : Table) : List Value :=
  if part == "keys" then entries.map (·.1)
  else if part == "values" then entries.map (·.2)
  else entries.map fun e => .tuple [e.1, e.2]

/-- An iterator over the items of a value; an iterator is its own. -/
def iterator? (v : Value) : Action (Option Ref) := do
  match v with
  | .str s => return some (← iteratorOf (characters s))
  | .stage s => return some (← iteratorOf (characters s.name))
  | .severity s => return some (← iteratorOf (characters s.name))
  | .tuple items => return some (← iteratorOf items)
  | .range a b c => return some (← alloc (.iterator (.range a c (rangeLength a b c))))
  | .ref r =>
    match ← load r with
    | .list _ => return some (← alloc (.iterator (.list r 0)))
    | .dict entries => return some (← alloc (.iterator (.entries r "keys" 0 entries.length)))
    | .view t part =>
      match ← load t with
      | .dict entries => return some (← alloc (.iterator (.entries t part 0 entries.length)))
      | _ => return none
    | .assets _ refs => return some (← alloc (.iterator (.members r 0 refs.size)))
    | .registry reg => return some (← iteratorOf (reg.entries.map fun e => .str e.name))
    | .iterator _ => return some r
    | .instance cls _ =>
      if (← classAt cls).kind == .view then return some (← alloc (.iterator (.rendering r)))
      else return none
    | _ => return none
  | _ => return none

/-- An iterator over the items of a value. -/
def iterate (v : Value) : Action Ref := do
  match ← iterator? v with
  | some r => return r
  | none => notIterable v

section

variable (m : Interpreter)

/-- The next item of an iterator; `none` at its end. Iterators that stand on others go down to them. -/
def advance (r : Ref) : Action (Option Value) := go m.rounds r
where
  /-- Stop because a table has changed. -/
  changed : Action (Option Value) := raiseText "RuntimeError" "dictionary changed size during iteration"
  /-- Go to the next item, down a number of iterators at most. -/
  go (depth : Nat) (r : Ref) : Action (Option Value) :=
    match depth with
    | 0 => throw .exhausted
    | depth + 1 => do
      let set (it : Iterator) : Action Unit := store r (.iterator it)
      let finish : Action (Option Value) := do
        set (.values [] none)
        return none
      match ← load r with
      | .iterator (.values (v :: rest) failure) =>
        set (.values rest failure)
        return some v
      | .iterator (.values [] (some e)) =>
        set (.values [] none)
        raiseValue e
      | .iterator (.list l i) =>
        match ← load l with
        | .list items =>
          match items[i]? with
          | some v =>
            set (.list l (i + 1))
            return some v
          | none => finish
        | _ => finish
      | .iterator (.backward l left) =>
        match left, ← load l with
        | n + 1, .list items =>
          match items[n]? with
          | some v =>
            set (.backward l n)
            return some v
          | none => finish
        | _, _ => finish
      | .iterator (.entries t part i size) =>
        match ← load t with
        | .dict entries =>
          if entries.length != size then changed
          else
            match (tablePart part entries)[i]? with
            | some v =>
              set (.entries t part (i + 1) size)
              return some v
            | none => finish
        | _ => finish
      | .iterator (.members s i size) =>
        match ← load s with
        | .assets _ refs =>
          if refs.size != size then changed
          else
            match refs.toList[i]? with
            | some v =>
              set (.members s (i + 1) size)
              return some v
            | none => finish
        | _ => finish
      | .iterator (.range n step (left + 1)) =>
        set (.range (n + step) step left)
        return some (.int n)
      | .iterator (.enumerate inner n) =>
        match ← go depth inner with
        | some v =>
          set (.enumerate inner (n + 1))
          return some (.tuple [.int n, v])
        | none => return none
      | .iterator (.zip inner) =>
        if inner.isEmpty then return none
        else
          match ← both (go depth) inner with
          | some vs => return some (.tuple vs)
          | none => return none
      | .iterator (.map f inner) =>
        match ← both (go depth) inner with
        | some vs => return some (← m.apply f vs)
        | none => return none
      | .iterator (.filter f inner) =>
        m.repeatUntil (fun (_ : Unit) => do
          match ← go depth inner with
          | none => return .error none
          | some v =>
            let keep ← match f with
              | .none => truth v
              | f => truth (← m.apply f [v])
            if keep then return .error (some v) else return .ok ()) ()
      | .iterator (.rendering view) =>
        set (.values [] none)
        return some (.str (← m.text (.ref view)))
      | _ => return none
  /-- The next item of each of several iterators; `none` when one of them is at its end. -/
  both (next : Ref → Action (Option Value)) : List Ref → Action (Option (List Value))
    | [] => return some []
    | r :: rest => do
      match ← next r with
      | none => return none
      | some v =>
        match ← both next rest with
        | some vs => return some (v :: vs)
        | none => return none

/-- The items that an iterator still has. -/
def drain (r : Ref) : Action (List Value) := do
  let items ← m.repeatUntil (fun (acc : Array Value) => do
    match ← advance m r with
    | some v => return .ok (acc.push v)
    | none => return .error acc) #[]
  return items.toList

/-- The items of a value. -/
def collect (v : Value) : Action (List Value) := do drain m (← iterate v)

/-- Do something with each item of a value until that gives a result. -/
def findItem {α : Type} (v : Value) (f : Value → Action (Option α)) : Action (Option α) := do
  let r ← iterate v
  m.repeatUntil (fun (_ : Unit) => do
    match ← advance m r with
    | none => return .error none
    | some x =>
      match ← f x with
      | some a => return .error (some a)
      | none => return .ok ()) ()

/-- Whether an iterable value holds another one. -/
def holdsItem (container item : Value) : Action Bool := do
  let found ← findItem m container fun x => do
    return if ← coincide m.text x item then some () else none
  return found.isSome

/-- Whether a value is in another one. -/
def isIn (item container : Value) : Action Bool := do
  match container.text? with
  | some s =>
    match item.text? with
    | some t => return (Text.findFrom t.toList s.toList 0).isSome
    | none =>
      typeError ("'in <string>' requires string as left operand, not " ++ (← typeName item))
  | none =>
    match ← object? container with
    | some (.dict entries) =>
      checkKey item
      return (Table.find? entries item).isSome
    | some (.view t "keys") =>
      checkKey item
      match ← load t with
      | .dict entries => return (Table.find? entries item).isSome
      | _ => return false
    | some (.assets _ refs) =>
      checkKey item
      return refs.contains item
    | some (.registry r) => return r.entries.any fun e => item == .str e.name
    | _ =>
      if ← isIterable container then holdsItem m container item
      else typeError ("argument of type '" ++ (← typeName container) ++ "' is not iterable")

/-- The values that targets take: as many as there are targets, where a starred target takes the rest. -/
def unpack (before : Nat) (star : Bool) (after : Nat) (v : Value) : Action (List Value) := do
  let r ← match ← iterator? v with
    | some r => pure r
    | none => typeError ("cannot unpack non-iterable " ++ (← typeName v) ++ " object")
  let least := before + after
  let few (n : Nat) : Action (List Value) :=
    valueError ("not enough values to unpack (expected " ++ (if star then "at least " else "") ++
      Text.natText least ++ ", got " ++ Text.natText n ++ ")")
  if star then
    let items ← drain m r
    if items.length < least then few items.length
    else
      let middle := (items.drop before).take (items.length - least)
      return items.take before ++ [← newList middle] ++ items.drop (items.length - after)
  else
    let items ← takeItems r least
    if items.length < least then few items.length
    else
      match ← advance m r with
      | some _ => valueError ("too many values to unpack (expected " ++ Text.natText least ++ ")")
      | none => return items
where
  /-- A number of items at most. -/
  takeItems (r : Ref) : Nat → Action (List Value)
    | 0 => return []
    | n + 1 => do
      match ← advance m r with
      | some v => return v :: (← takeItems r n)
      | none => return []

end

end Stencil.Evaluation
