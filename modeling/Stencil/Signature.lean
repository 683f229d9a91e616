/-!
# Signatures

How the arguments of a call are matched with parameters: by position, then by name. The first thing
that does not fit is reported; names that no parameter has come before arguments in excess, and those
before parameters left without a value.
-/

namespace Stencil

/-- The parameters of something that is called. -/
structure Signature where
  /-- The name that reports use. -/
  name : String
  /-- Parameters that are filled by position or by name. -/
  positional : List String
  /-- How many of the positional parameters, counted from the first, need a value. -/
  required : Nat
  /-- How many of the positional parameters, counted from the first, cannot be given by name. -/
  positionalOnly : Nat := 0
  /-- A parameter takes further arguments. -/
  rest : Bool := false
  /-- Parameters that are filled by name only, and whether each needs a value. -/
  named : List (String × Bool) := []
  /-- A parameter takes arguments of other names. -/
  namedRest : Bool := false
  deriving Inhabited, Repr

/-- Why the arguments of a call do not fit. -/
inductive BindError where
  | unexpectedName (function name : String)
  | repeatedName (function name : String)
  | positionalOnlyName (function : String) (names : List String)
  | tooMany (signature : Signature) (given namedGiven : Nat)
  | missing (function : String) (names : List String)
  | missingNamed (function : String) (names : List String)

namespace BindError

/-- Quoted names as a list in a sentence. -/
def sentence (names : List String) : String :=
  match names.map fun n => "'" ++ n ++ "'" with
  | [] => ""
  | [a] => a
  | [a, b] => a ++ " and " ++ b
  | qs => ", ".intercalate (qs.take (qs.length - 1)) ++ ", and " ++ qs.getLast?.getD ""

/-- The ending of a plural. -/
def plural (n : Nat) : String := if n = 1 then "" else "s"

/-- What is reported. -/
def message : BindError → String
  | unexpectedName f n => f ++ "() got an unexpected keyword argument '" ++ n ++ "'"
  | repeatedName f n => f ++ "() got multiple values for argument '" ++ n ++ "'"
  | positionalOnlyName f ns =>
    f ++ "() got some positional-only arguments passed as keyword arguments: '" ++
      ", ".intercalate ns ++ "'"
  | tooMany s given namedGiven =>
    let most := s.positional.length
    let takes :=
      if s.required < most then
        "from " ++ toString s.required ++ " to " ++ toString most ++ " positional arguments"
      else toString most ++ " positional argument" ++ plural most
    let also :=
      if namedGiven = 0 then ""
      else " positional argument" ++ plural given ++ " (and " ++ toString namedGiven ++
        " keyword-only argument" ++ plural namedGiven ++ ")"
    s.name ++ "() takes " ++ takes ++ " but " ++ toString given ++ also ++
      (if given = 1 && namedGiven = 0 then " was given" else " were given")
  | missing f ns =>
    f ++ "() missing " ++ toString ns.length ++ " required positional argument" ++
      plural ns.length ++ ": " ++ sentence ns
  | missingNamed f ns =>
    f ++ "() missing " ++ toString ns.length ++ " required keyword-only argument" ++
      plural ns.length ++ ": " ++ sentence ns

end BindError

/-- Arguments matched with parameters. -/
structure Bound (α : Type) where
  /-- The parameters that were given a value. -/
  values : List (String × α) := []
  /-- Arguments beyond the positional parameters. -/
  extra : List α := []
  /-- Arguments of names that no parameter has. -/
  extraNamed : List (String × α) := []

namespace Bound

variable {α : Type}

/-- The value given to a parameter. -/
def get? (b : Bound α) (name : String) : Option α := (b.values.find? (·.1 == name)).map (·.2)

end Bound

namespace Signature

variable {α : Type}

/-- Match one argument given by name. -/
def bindNamed (s : Signature) (b : Bound α) (arg : String × α) : Except BindError (Bound α) :=
  let byName := (s.positional.drop s.positionalOnly) ++ s.named.map (·.1)
  if byName.contains arg.1 then
    if b.values.any (·.1 == arg.1) then .error (.repeatedName s.name arg.1)
    else .ok { b with values := b.values ++ [arg] }
  else if s.namedRest then .ok { b with extraNamed := b.extraNamed ++ [arg] }
  else
    let clashes := (s.positional.take s.positionalOnly).filter (· == arg.1)
    if clashes.isEmpty then .error (.unexpectedName s.name arg.1)
    else .error (.positionalOnlyName s.name clashes)

/-- Match the arguments of a call. -/
def bind (s : Signature) (args : List α) (named : List (String × α)) :
    Except BindError (Bound α) := do
  let first : Bound α :=
    { values := s.positional.zip args, extra := args.drop s.positional.length }
  let b ← named.foldlM s.bindNamed first
  if !b.extra.isEmpty && !s.rest then
    throw (.tooMany s args.length ((s.named.filter fun n => b.values.any (·.1 == n.1)).length))
  let absent (n : String) : Bool := !b.values.any (·.1 == n)
  let missing := (s.positional.take s.required).filter absent
  if !missing.isEmpty then throw (.missing s.name missing)
  let missingNamed := (s.named.filter fun n => n.2 && absent n.1).map (·.1)
  if !missingNamed.isEmpty then throw (.missingNamed s.name missingNamed)
  return b

end Signature

end Stencil
