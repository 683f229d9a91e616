import Stencil.Evaluation.Sorting

/-!
# Operations on lists and tables

The methods of lists and tables, which change them in place.
-/

namespace Stencil.Evaluation

open World

/-- The names of the methods of lists. -/
def listMethodNames : List String :=
  ["append", "clear", "copy", "count", "extend", "index", "insert", "pop", "remove", "reverse", "sort"]

/-- The names of the methods of tables. -/
def tableMethodNames : List String :=
  ["clear", "copy", "fromkeys", "get", "items", "keys", "pop", "popitem", "setdefault", "update",
    "values"]

/-- The names of the methods of tuples and ranges. -/
def sequenceMethodNames : List String := ["count", "index"]

section

variable (m : Interpreter)

/-- The first place of a value among items. -/
def placeIn (v : Value) (i : Nat) : List Value → Action (Option Nat)
  | [] => return none
  | x :: rest => do if ← coincide m.text x v then return some i else placeIn v (i + 1) rest

/-- How often a value is among items. -/
def countIn (v : Value) : List Value → Action Nat
  | [] => return 0
  | x :: rest => do
    let here := if ← coincide m.text x v then 1 else 0
    return here + (← countIn v rest)

/-- Where a value first is among items between two bounds. -/
def indexIn (items : List Value) (args : List Value) (report : String) : Action Value := do
  let v := args.headD .none
  let (start, stop) ← bounds items.length (args.drop 1)
  match ← placeIn m v start ((items.take stop).drop start) with
  | some i => return .int i
  | none => valueError report

/-- Call a method of a tuple or range. -/
def sequenceMethod (kind : String) (items : List Value) (name : String) (args : Arguments) :
    Action Value := do
  match name with
  | "count" => return .int (← countIn m (← oneArgument (kind ++ ".count") args) items)
  | _ =>
    indexIn m items (← positionalArguments (kind ++ ".") name 1 3 args)
      (kind ++ ".index(x): x not in " ++ kind)

end

/-- Call a method of a list. -/
def listMethod (m : Interpreter) (r : Ref) (items : Array Value) (name : String) (args : Arguments) :
    Action Value := do
  let owned := "list." ++ name
  let positional := positionalArguments "list." name
  let put (items : List Value) : Action Value := do
    store r (.list items.toArray)
    return .none
  match name with
  | "append" =>
    let v ← oneArgument owned args
    store r (.list (items.push v))
    return .none
  | "clear" =>
    noArguments owned args
    put []
  | "copy" =>
    noArguments owned args
    newList items.toList
  | "count" => return .int (← countIn m (← oneArgument owned args) items.toList)
  | "extend" =>
    let more ← collect m (← oneArgument owned args)
    match ← load r with
    | .list now => put (now.toList ++ more)
    | _ => return .none
  | "index" =>
    let given ← positional 1 3 args
    indexIn m items.toList given ((← reprOf (given.headD .none)) ++ " is not in list")
  | "insert" =>
    match ← positional 2 2 args with
    | [i, v] =>
      let at' := (clampBound items.size 1 (← integerArgument i)).toNat
      put (items.toList.take at' ++ v :: items.toList.drop at')
    | _ => return .none
  | "pop" =>
    let given ← positional 0 1 args
    let i ← match given with
      | v :: _ => integerArgument v
      | [] => pure (-1)
    if items.isEmpty then raiseText "IndexError" "pop from empty list"
    else
      match position? items.size i with
      | some j =>
        let _ ← put (items.toList.eraseIdx j)
        return items.getD j .none
      | none => raiseText "IndexError" "pop index out of range"
  | "remove" =>
    match ← placeIn m (← oneArgument owned args) 0 items.toList with
    | some i => put (items.toList.eraseIdx i)
    | none => valueError "list.remove(x): x not in list"
  | "reverse" =>
    noArguments owned args
    put items.toList.reverse
  | "sort" =>
    if !args.items.isEmpty then typeError "sort() takes no positional arguments"
    else
      let (key, backward) ← sortOptions "sort" args
      put (← sortBy m key backward items.toList)
  | _ => raiseText "AttributeError" ("'list' object has no attribute '" ++ name ++ "'")

/-- The key and the value that an item of a sequence of pairs gives. -/
def pairOf (m : Interpreter) (index : Nat) (v : Value) : Action (Value × Value) := do
  match ← iterator? v with
  | none =>
    typeError ("cannot convert dictionary update sequence element #" ++ Text.natText index ++
      " to a sequence")
  | some it =>
    match ← drain m it with
    | [k, x] => return (k, x)
    | items =>
      valueError ("dictionary update sequence element #" ++ Text.natText index ++ " has length " ++
        Text.natText items.length ++ "; 2 is required")

/-- A table with the entries of a table or of a sequence of pairs, and with named values. -/
def extendTable (m : Interpreter) (name : String) (t : Table) (args : Arguments) : Action Table := do
  countArguments name 0 1 args
  let t ← match args.items with
    | v :: _ =>
      match ← table? v with
      | some entries => pure (entries.foldl (fun (t : Table) e => t.insert e.1 e.2) t)
      | none =>
        let items ← collect m v
        items.zipIdx.foldlM (fun (t : Table) p => do
          let (k, x) ← pairOf m p.2 p.1
          checkKey k
          return t.insert k x) t
    | [] => pure t
  return args.named.foldl (fun (t : Table) a => t.insert (.str a.1) a.2) t

/-- A table of keys that all have one value. -/
def tableOfKeys (m : Interpreter) (args : List Value) : Action Value := do
  let keys ← collect m (args.headD .none)
  keys.forM checkKey
  allocValue (.dict (keys.foldl (fun (t : Table) k => t.insert k (args[1]?.getD .none)) []))

/-- Call a method of a table. -/
def tableMethod (m : Interpreter) (r : Ref) (entries : Table) (name : String) (args : Arguments) :
    Action Value := do
  let owned := "dict." ++ name
  let positional := positionalArguments "dict." name
  let view (part : String) : Action Value := do
    noArguments owned args
    allocValue (.view r part)
  match name with
  | "keys" | "values" | "items" => view name
  | "clear" =>
    noArguments owned args
    store r (.dict [])
    return .none
  | "copy" =>
    noArguments owned args
    allocValue (.dict entries)
  | "get" =>
    let given ← positional 1 2 args
    let key := given.headD .none
    checkKey key
    return (Table.find? entries key).getD (given[1]?.getD .none)
  | "pop" =>
    let given ← positional 1 2 args
    let key := given.headD .none
    checkKey key
    match Table.find? entries key with
    | some v =>
      store r (.dict (Table.erase entries key))
      return v
    | none =>
      match given[1]? with
      | some v => return v
      | none => missingKey key
  | "popitem" =>
    noArguments owned args
    match entries.getLast? with
    | some e =>
      store r (.dict entries.dropLast)
      return .tuple [e.1, e.2]
    | none => raiseText "KeyError" "popitem(): dictionary is empty"
  | "setdefault" =>
    let given ← positional 1 2 args
    let key := given.headD .none
    checkKey key
    match Table.find? entries key with
    | some v => return v
    | none =>
      let v := given[1]?.getD .none
      store r (.dict (Table.insert entries key v))
      return v
  | "update" =>
    store r (.dict (← extendTable m "update" entries args))
    return .none
  | "fromkeys" => tableOfKeys m (← positional 1 2 args)
  | _ => raiseText "AttributeError" ("'dict' object has no attribute '" ++ name ++ "'")

end Stencil.Evaluation
