import Stencil.Evaluation.Indexing

/-!
# Arguments of built-in operations

Built-in operations take their arguments by position, and report when there are too few or too many.
-/

namespace Stencil.Evaluation

open World

/-- The ending of a plural in reports. -/
def pluralEnding (n : Nat) : String := if n = 1 then "" else "s"

/-- Stop when arguments are given by name. -/
def noNames (name : String) (args : Arguments) : Action Unit :=
  if args.named.isEmpty then return () else typeError (name ++ "() takes no keyword arguments")

/-- Stop unless there are no arguments. -/
def noArguments (name : String) (args : Arguments) : Action Unit := do
  noNames name args
  if !args.items.isEmpty then
    typeError (name ++ "() takes no arguments (" ++ Text.natText args.items.length ++ " given)")

/-- The only argument. -/
def oneArgument (name : String) (args : Arguments) : Action Value := do
  noNames name args
  match args.items with
  | [v] => return v
  | vs =>
    typeError (name ++ "() takes exactly one argument (" ++ Text.natText vs.length ++ " given)")

/-- Stop unless the number of arguments is in a range. -/
def countArguments (name : String) (least most : Nat) (args : Arguments) : Action Unit := do
  let n := args.items.length
  let report (bound : String) (limit : Nat) : Action Unit :=
    typeError (name ++ " expected " ++ (if least = most then "" else bound) ++ Text.natText limit ++
      " argument" ++ pluralEnding limit ++ ", got " ++ Text.natText n)
  if n < least then report "at least " least
  else if n > most then report "at most " most

/-- Arguments by position, in a range, and none by name. -/
def positionalArguments (owner name : String) (least most : Nat) (args : Arguments) :
    Action (List Value) := do
  noNames (owner ++ name) args
  countArguments name least most args
  return args.items

/-- Arguments that can also be given by name, each with its place among the parameters. -/
def namedArguments (name : String) (params : List String) (args : Arguments) :
    Action (List (Option Value)) := do
  let n := args.items.length + args.named.length
  if n > params.length then
    typeError (name ++ "() takes at most " ++ Text.natText params.length ++ " argument" ++
      pluralEnding params.length ++ " (" ++ Text.natText n ++ " given)")
  match args.named.find? fun a => !params.contains a.1 with
  | some a => typeError ("'" ++ a.1 ++ "' is an invalid keyword argument for " ++ name ++ "()")
  | none =>
    return params.zipIdx.map fun p =>
      match args.items[p.2]? with
      | some v => some v
      | none => (args.named.find? (·.1 == p.1)).map (·.2)

/-- An argument that has to be an integer. -/
def integerArgument (v : Value) : Action Int := do
  match v.integer? with
  | some i => return i
  | none => typeError ("'" ++ (← typeName v) ++ "' object cannot be interpreted as an integer")

/-- The part of a sequence between two optional bounds: its beginning and its end. -/
def bounds (length : Nat) (args : List Value) : Action (Nat × Nat) := do
  let bound (v : Option Value) (other : Nat) : Action Nat := do
    match v with
    | none | some .none => return other
    | some v =>
      match v.integer? with
      | some i => return (clampBound length 1 i).toNat
      | none => typeError "slice indices must be integers or None or have an __index__ method"
  return (← bound args[0]? 0, ← bound args[1]? length)

end Stencil.Evaluation
