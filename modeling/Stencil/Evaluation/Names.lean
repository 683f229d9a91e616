import Stencil.Evaluation.Builtins

/-!
# Names

Where a name is looked up and where it is bound. The frames around come first, then the global names of
the run, then the attributes of the context, and last the built-in names.
-/

namespace Stencil.Evaluation

open World

/-- The frame at a reference. -/
def frameAt (r : Ref) : Action Frame := do
  match ← load r with
  | .frame f => return f
  | _ => return { names := [] }

/-- The namespace at a reference. -/
def namespaceAt (r : Ref) : Action Namespace := do
  match ← load r with
  | .globals n => return n
  | _ => return {}

/-- A value by name. -/
def named? (entries : List (String × Value)) (name : String) : Option Value :=
  (entries.find? (·.1 == name)).map (·.2)

/-- Where a name belongs: the frame that has it and whether that is the innermost one; none when it is
global. -/
def ownerOf (frames : List Ref) (name : String) : Action (Option (Ref × Bool)) := go true frames
where
  /-- Look through frames from the inside. -/
  go (innermost : Bool) : List Ref → Action (Option (Ref × Bool))
    | [] => return none
    | r :: rest => do
      let f ← frameAt r
      if f.names.contains name then return some (r, innermost)
      else if f.globalNames.contains name then return none
      else go false rest

/-- Stop because a local name has no value. -/
def unboundLocal {α : Type} (name : String) (innermost : Bool) : Action α :=
  if innermost then
    raiseText "UnboundLocalError"
      ("cannot access local variable '" ++ name ++ "' where it is not associated with a value")
  else
    raiseText "NameError"
      ("cannot access free variable '" ++ name ++
        "' where it is not associated with a value in enclosing scope")

/-- Stop because a name has no value. -/
def undefinedName {α : Type} (name : String) : Action α :=
  raiseText "NameError" ("name '" ++ name ++ "' is not defined")

/-- The attribute of a context that stands in for a name; exceptions that say that there is none are
passed over. -/
def contextName? (m : Interpreter) (context : Value) (name : String) : Action (Option Value) := do
  match ← attempt (m.attributeOf context name) with
  | .ok v => return some v
  | .error (.raised r) =>
    if ← isInstance r.value (.exception "AttributeError") then return none
    else if ← isInstance r.value (.exception "KeyError") then return none
    else throw (.raised r)
  | .error .exhausted => throw .exhausted

/-- The value of a global name. -/
def globalName (m : Interpreter) (globals : Ref) (name : String) : Action Value := do
  let n ← namespaceAt globals
  match named? n.values name with
  | some v => return v
  | none =>
    let fromContext ← match n.context with
      | some c => contextName? m c name
      | none => pure none
    match fromContext, builtin? name with
    | some v, _ => return v
    | none, some v => return v
    | none, none => undefinedName name

/-- The value of a name. -/
def readName (m : Interpreter) (env : Env) (name : String) : Action Value := do
  match ← ownerOf env.frames name with
  | none => globalName m env.globals name
  | some (r, innermost) =>
    match named? (← frameAt r).values name with
    | some v => return v
    | none => unboundLocal name innermost

/-- Bind a name. -/
def bindName (env : Env) (name : String) (v : Value) : Action Unit := do
  match ← ownerOf env.frames name with
  | none =>
    let n ← namespaceAt env.globals
    store env.globals (.globals { n with values := setNamed n.values name v })
  | some (r, _) =>
    let f ← frameAt r
    store r (.frame { f with values := setNamed f.values name v })

/-- Take the value of a name away. -/
def unbindName (env : Env) (name : String) : Action Unit := do
  match ← ownerOf env.frames name with
  | none =>
    let n ← namespaceAt env.globals
    if (named? n.values name).isSome then
      store env.globals (.globals { n with values := eraseNamed n.values name })
    else undefinedName name
  | some (r, innermost) =>
    let f ← frameAt r
    if (named? f.values name).isSome then
      store r (.frame { f with values := eraseNamed f.values name })
    else unboundLocal name innermost

end Stencil.Evaluation
