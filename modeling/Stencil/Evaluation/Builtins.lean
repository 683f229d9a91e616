import Stencil.Evaluation.Attributes
import Stencil.Evaluation.Percent

/-!
# Built-in functions and types

The functions and types that every script can name.
-/

namespace Stencil.Evaluation

open World Script

/-- The names of the built-in functions. -/
def functionNames : List String :=
  ["abs", "all", "any", "ascii", "bin", "callable", "chr", "delattr", "divmod", "getattr", "hasattr",
    "hex", "isinstance", "issubclass", "iter", "len", "max", "min", "next", "oct", "ord", "pow",
    "print", "repr", "round", "setattr", "sorted", "sum"]

/-- The names of the built-in types. -/
def typeNames : List String :=
  ["bool", "dict", "enumerate", "filter", "float", "int", "list", "map", "object", "range", "reversed",
    "slice", "str", "tuple", "type", "zip"]

/-- The built-in value of a name. -/
def builtin? (name : String) : Option Value :=
  if functionNames.contains name then some (.builtin name)
  else if typeNames.contains name then some (.type (.plain name))
  else if exceptionNames.contains name then some (.type (.exception name))
  else
    match name with
    | "IOError" | "EnvironmentError" => some (.type (.exception "OSError"))
    | "Ellipsis" => some .ellipsis
    | "NotImplemented" => some .notImplemented
    | "__name__" => some (.str "builtins")
    | _ => none

/-- An argument by name. -/
def Arguments.get? (args : Arguments) (name : String) : Option Value :=
  (args.named.find? (·.1 == name)).map (·.2)

/-- Stop when an argument has a name that is not expected. -/
def expectNames (function : String) (names : List String) (args : Arguments) : Action Unit := do
  match args.named.find? fun a => !names.contains a.1 with
  | some a =>
    typeError ("'" ++ a.1 ++ "' is an invalid keyword argument for " ++ function ++ "()")
  | none => return ()

/-- A double as an integer, cut towards zero. -/
def truncated (x : Float) : Action Value := do
  if x.isNaN then valueError "cannot convert float NaN to integer"
  else if x.isInf then overflow "cannot convert float infinity to integer"
  else return .int (Number.truncate x)

/-- An integer from a text in a base. -/
def intOfText (s : String) (base : Nat) : Action Value := do
  let read := if base = 10 then Number.readInt? s else Number.readIntInBase? base s
  let digits := if base = 10 then (Number.digitCount? s).getD 0 else 0
  match read with
  | some i => return .int i
  | none =>
    if digits > Number.maxDigits then
      valueError (Number.tooManyDigits ++ ": value has " ++ Text.natText digits ++ " digits" ++ Number.raiseLimit)
    else valueError ("invalid literal for int() with base " ++ Text.natText base ++ ": " ++ Text.quoted s)

/-- Make an integer. -/
def makeInt (args : Arguments) : Action Value := do
  let n := args.items.length
  if n > 2 then typeError ("int() takes at most 2 arguments (" ++ Text.natText n ++ " given)")
  match args.items, args.get? "base" with
  | [], none => return .int 0
  | [], some _ => typeError "int() missing string argument"
  | [v], none =>
    match v.text?, v with
    | some s, _ => intOfText s 10
    | none, .float x => truncated x
    | none, v =>
      match v.integer? with
      | some i => return .int i
      | none =>
        typeError
          ("int() argument must be a string, a bytes-like object or a real number, not '" ++
            (← typeName v) ++ "'")
  | v :: rest, named =>
    let base ← integerArgument ((rest.head? <|> named).getD .none)
    match v.text? with
    | some s =>
      if base == 0 || (2 ≤ base && base ≤ 36) then intOfText s base.toNat
      else valueError "int() base must be >= 2 and <= 36, or 0"
    | none => typeError "int() can't convert non-string with explicit base"

/-- Make a double. -/
def makeFloat (args : Arguments) : Action Value := do
  match ← positionalArguments "" "float" 0 1 args with
  | [] => return .float 0.0
  | v :: _ =>
    match v.text? with
    | some s =>
      match Number.readFloat? s with
      | some x => return .float x
      | none => valueError ("could not convert string to float: " ++ Text.quoted s)
    | none =>
      match float? v with
      | some x => return .float (← x)
      | none =>
        typeError ("float() argument must be a string or a real number, not '" ++ (← typeName v) ++ "'")

/-- An iterator that goes backward. -/
def makeReversed (v : Value) : Action Value := do
  let refuse : Action Value := do typeError ("'" ++ (← typeName v) ++ "' object is not reversible")
  match v with
  | .str s => return .ref (← iteratorOf (characters s).reverse)
  | .tuple items => return .ref (← iteratorOf items.reverse)
  | .range a b c =>
    let n := rangeLength a b c
    allocValue (.iterator (.range (a + (n - 1 : Int) * c) (-c) n))
  | .ref r =>
    match ← load r with
    | .list items => allocValue (.iterator (.backward r items.size))
    | .dict entries => return .ref (← iteratorOf (tablePart "keys" entries).reverse)
    | .view t part =>
      match ← load t with
      | .dict entries => return .ref (← iteratorOf (tablePart part entries).reverse)
      | _ => refuse
    | _ => refuse
  | _ => refuse

/-- Make a value of a built-in type. -/
def makeBuiltin (m : Interpreter) (name : String) (args : Arguments) : Action Value := do
  let positional (least most : Nat) : Action (List Value) := positionalArguments "" name least most args
  match name with
  | "int" => makeInt args
  | "float" => makeFloat args
  | "bool" =>
    match ← positional 0 1 with
    | [] => return .bool false
    | v :: _ => return .bool (← truth v)
  | "str" =>
    match args.items, args.get? "object" with
    | [], none => return .str ""
    | v :: _ :: _, _ =>
      match v.text? with
      | some _ => typeError "decoding str is not supported"
      | none =>
        typeError ("decoding to str: need a bytes-like object, " ++ (← typeName v) ++ " found")
    | v :: _, _ => return .str (← m.text v)
    | [], some v => return .str (← m.text v)
  | "list" =>
    match ← positional 0 1 with
    | [] => newList []
    | v :: _ => newList (← collect m v)
  | "tuple" =>
    match ← positional 0 1 with
    | [] => return .tuple []
    | .tuple items :: _ => return .tuple items
    | v :: _ => return .tuple (← collect m v)
  | "dict" => allocValue (.dict (← extendTable m "dict" [] args))
  | "object" => allocValue (.instance 0 [])
  | "type" =>
    match args.items with
    | [v] => return .type (← typeOf v)
    | _ => typeError "type() takes 1 or 3 arguments"
  | "range" =>
    let items ← positional 1 3
    let whole ← items.mapM integerArgument
    match whole with
    | [b] => return .range 0 b 1
    | [a, b] => return .range a b 1
    | [a, b, c] =>
      if c == 0 then valueError "range() arg 3 must not be zero" else return .range a b c
    | _ => return .none
  | "slice" =>
    match ← positional 1 3 with
    | [b] => return .slice .none b .none
    | [a, b] => return .slice a b .none
    | [a, b, c] => return .slice a b c
    | _ => return .none
  | "enumerate" =>
    expectNames name ["iterable", "start"] args
    match args.items.head? <|> args.get? "iterable" with
    | none => typeError "enumerate() missing required argument 'iterable' (pos 1)"
    | some v =>
      let start ← match args.items[1]? <|> args.get? "start" with
        | some n => integerArgument n
        | none => pure 0
      allocValue (.iterator (.enumerate (← iterate v) start))
  | "zip" =>
    let inner ← args.items.zipIdx.mapM fun p => do
      match ← iterator? p.1 with
      | some r => return r
      | none =>
        typeError ("'" ++ (← typeName p.1) ++ "' object is not iterable")
    allocValue (.iterator (.zip inner))
  | "reversed" =>
    match ← positional 1 1 with
    | v :: _ => makeReversed v
    | [] => return .none
  | "map" =>
    match args.items with
    | f :: v :: rest => allocValue (.iterator (.map f (← (v :: rest).mapM iterate)))
    | _ => typeError "map() must have at least two arguments."
  | "filter" =>
    match ← positional 2 2 with
    | [f, v] => allocValue (.iterator (.filter f (← iterate v)))
    | _ => return .none
  | n => typeError ("cannot create '" ++ n ++ "' instances")

/-- The greatest or least of some values; `order` says which of two values is taken. -/
def extreme (m : Interpreter) (name : String) (order : Order) (args : Arguments) : Action Value := do
  match args.named.find? fun a => a.1 != "key" && a.1 != "default" with
  | some a => typeError ("'" ++ a.1 ++ "' is an invalid keyword argument for " ++ name ++ "()")
  | none =>
    let items ← match args.items with
      | [] => typeError (name ++ " expected at least 1 argument, got 0")
      | [v] => collect m v
      | vs => pure vs
    let keyOf (v : Value) : Action Value :=
      match args.get? "key" with
      | none | some .none => return v
      | some f => m.apply f [v]
    match items with
    | [] =>
      match args.get? "default" with
      | some v => return v
      | none => valueError (name ++ "() arg is an empty sequence")
    | first :: rest =>
      let start ← keyOf first
      let (_, best) ← rest.foldlM (fun (acc : Value × Value) v => do
        let k ← keyOf v
        if ← ordered m.text order k acc.1 then return (k, v) else return acc) (start, first)
      return best

/-- The types that a value lists: a type, or a tuple of them. -/
def typesOf (function : String) : Value → Action (List TypeRef)
  | .type t => return [t]
  | .tuple items => go items
  | _ => refuse
where
  /-- Stop because a value is no type. -/
  refuse : Action (List TypeRef) :=
    typeError (function ++ "() arg 2 must be a type, a tuple of types, or a union")
  /-- The types that several values list. -/
  go : List Value → Action (List TypeRef)
    | [] => return []
    | v :: rest => do return (← typesOf function v) ++ (← go rest)

/-- The text that an attribute name has to be. -/
def attributeName (report : String) (v : Value) : Action String := do
  match v.text? with
  | some s => return s
  | none => typeError (report ++ ": attribute name must be string")

/-- A value that counts as true or false. -/
def search (m : Interpreter) (v : Value) (sought : Bool) : Action Bool := do
  let found ← findItem m v fun x => do
    return if (← truth x) == sought then some () else none
  return found.isSome

/-- Call a built-in function. -/
def callBuiltin (m : Interpreter) (name : String) (args : Arguments) : Action Value := do
  let one : Action Value := oneArgument name args
  let positional (least most : Nat) : Action (List Value) := positionalArguments "" name least most args
  let whole (base : Nat) (mark : String) : Action Value := do
    return .str (Number.inBase base mark (← integerArgument (← one)))
  match name with
  | "len" =>
    let v ← one
    match ← length? v with
    | some n => return .int n
    | none => typeError ("object of type '" ++ (← typeName v) ++ "' has no len()")
  | "repr" | "ascii" => return .str (← reprOf (← one))
  | "abs" =>
    match ← one with
    | .float x => return .float x.abs
    | v =>
      match v.integer? with
      | some i => return .int i.natAbs
      | none => typeError ("bad operand type for abs(): '" ++ (← typeName v) ++ "'")
  | "all" => return .bool !(← search m (← one) false)
  | "any" => return .bool (← search m (← one) true)
  | "bin" => whole 2 "0b"
  | "oct" => whole 8 "0o"
  | "hex" => whole 16 "0x"
  | "callable" => return .bool (← callable (← one))
  | "chr" =>
    let i ← integerArgument (← one)
    if 0 ≤ i && i < 0x110000 then return .str (Char.ofNat i.toNat).toString
    else valueError "chr() arg not in range(0x110000)"
  | "ord" =>
    let v ← one
    match v.text?.map String.toList with
    | some [c] => return .int c.toNat
    | some cs =>
      typeError ("ord() expected a character, but string of length " ++ Text.natText cs.length ++
        " found")
    | none => typeError ("ord() expected string of length 1, but " ++ (← typeName v) ++ " found")
  | "divmod" =>
    match ← positional 2 2 with
    | [a, b] =>
      let shown := "divmod()"
      let q ← binary (collect m) (percent m) shown .floorDiv a b
      let r ← binary (collect m) (percent m) shown .mod a b
      return .tuple [q, r]
    | _ => return .none
  | "pow" =>
    match ← positional 2 3 with
    | [a, b] => binary (collect m) (percent m) (symbol .pow) .pow a b
    | [a, b, c] =>
      let p ← binary (collect m) (percent m) (symbol .pow) .pow a b
      binary (collect m) (percent m) (symbol .mod) .mod p c
    | _ => return .none
  | "getattr" =>
    let items ← positional 2 3
    let v := items.headD .none
    let n ← attributeName "getattr()" (items[1]?.getD .none)
    match items[2]? with
    | none => m.attributeOf v n
    | some other => return (← attribute? m v n).getD other
  | "hasattr" =>
    let items ← positional 2 2
    let n ← attributeName "hasattr()" (items[1]?.getD .none)
    return .bool (← hasAttribute m (items.headD .none) n)
  | "setattr" =>
    let items ← positional 3 3
    match items[1]?.bind Value.text? with
    | some n =>
      setAttribute (items.headD .none) n (items[2]?.getD .none)
      return .none
    | none =>
      typeError ("attribute name must be string, not '" ++ (← typeName (items[1]?.getD .none)) ++ "'")
  | "delattr" =>
    let items ← positional 2 2
    match items[1]?.bind Value.text? with
    | some n =>
      deleteAttribute (items.headD .none) n
      return .none
    | none =>
      typeError ("attribute name must be string, not '" ++ (← typeName (items[1]?.getD .none)) ++ "'")
  | "isinstance" =>
    let items ← positional 2 2
    let types ← typesOf name (items[1]?.getD .none)
    return .bool (← types.anyM (isInstance (items.headD .none)))
  | "issubclass" =>
    let items ← positional 2 2
    match items.headD .none with
    | .type t =>
      let types ← typesOf name (items[1]?.getD .none)
      return .bool (← types.anyM (isSubtype t))
    | _ => typeError "issubclass() arg 1 must be a class"
  | "iter" =>
    match ← positional 1 2 with
    | v :: _ => return .ref (← iterate v)
    | [] => return .none
  | "next" =>
    let items ← positional 1 2
    let v := items.headD .none
    match v, ← object? v with
    | .ref r, some (.iterator _) =>
      match ← advance m r, items[1]? with
      | some x, _ => return x
      | none, some other => return other
      | none, none => raise "StopIteration" []
    | v, _ => typeError ("'" ++ (← typeName v) ++ "' object is not an iterator")
  | "max" => extreme m name .gt args
  | "min" => extreme m name .lt args
  | "print" => return .none
  | "round" =>
    expectNames name ["number", "ndigits"] args
    let v := (args.items.head? <|> args.get? "number").getD .none
    let places := (args.items[1]? <|> args.get? "ndigits").getD .none
    match v, places with
    | .float x, .none =>
      if x.isNaN || x.isInf then truncated x else return .int (Number.roundToInt x)
    | .float x, n =>
      let n ← integerArgument n
      if x.isNaN || x.isInf then return .float x else return .float (Number.roundToPlaces x n)
    | v, n =>
      match v.integer?, n with
      | some i, .none => return .int i
      | some i, n =>
        let n ← integerArgument n
        return .int (if n < 0 then Number.roundToTens i (-n).toNat else i)
      | none, _ => typeError ("type " ++ (← typeName v) ++ " doesn't define __round__ method")
  | "sorted" =>
    match args.items with
    | [v] =>
      let (key, backward) ← sortOptions "sort" args
      newList (← sortBy m key backward (← collect m v))
    | vs => typeError ("sorted expected 1 argument, got " ++ Text.natText vs.length)
  | "sum" =>
    expectNames name ["start"] args
    countArguments name 1 2 args
    let start := (args.items[1]? <|> args.get? "start").getD (.int 0)
    if start.text?.isSome then
      typeError "sum() can't sum strings [use ''.join(seq) instead]"
    else
      let items ← collect m (args.items.headD .none)
      items.foldlM (fun acc v => binary (collect m) (percent m) "+" .add acc v) start
  | n =>
    match n.splitOn ".", args.items with
    | [owner, method], self :: rest =>
      if method == "fromkeys" then tableOfKeys m args.items
      else if (← typeName self) == owner then
        m.call (← m.attributeOf self method) { args with items := rest }
      else
        typeError ("descriptor '" ++ method ++ "' for '" ++ owner ++
          "' objects doesn't apply to a '" ++ (← typeName self) ++ "' object")
    | _, _ => typeError ("unbound method " ++ n ++ "() needs an argument")

end Stencil.Evaluation
