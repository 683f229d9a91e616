import Stencil.Evaluation.Interpreter
import Stencil.Signature

/-!
# Functions

Making functions and calling them. The fallback values of parameters are evaluated once, where the
function is made. A call has a frame of its own, inside the frames around the function.
-/

namespace Stencil.Evaluation

open World Script

/-- Whether a parameter takes one argument by position. -/
def isPositional (p : Parameter Expr) : Bool := p.kind = .positionalOnly || p.kind = .positional

/-- The signature of a function. -/
def Function.signature (f : Function) : Signature :=
  let positional := f.params.filter isPositional
  let named := f.params.filter fun p => p.kind = .named
  { name := f.qualifiedName
    positional := positional.map (·.name)
    required := (positional.filter (·.fallback.isNone)).length
    positionalOnly := (positional.filter fun p => p.kind = .positionalOnly).length
    rest := f.params.any fun p => p.kind = .rest
    named := named.map fun p => (p.name, p.fallback.isNone)
    namedRest := f.params.any fun p => p.kind = .namedRest }

/-- The values that the parameters of a function have in a call. -/
def parameterValues (f : Function) (args : Arguments) : Action (List (String × Value)) := do
  match (Function.signature f).bind args.items args.named with
  | .error e => typeError e.message
  | .ok b =>
    let values ← f.params.mapM fun p => do
      match p.kind with
      | .rest => return some (p.name, Value.tuple b.extra)
      | .namedRest =>
        return some (p.name, ← allocValue (.dict (b.extraNamed.map fun a => (.str a.1, a.2))))
      | _ =>
        match b.get? p.name with
        | some v => return some (p.name, v)
        | none => return (f.fallbacks.find? (·.1 == p.name))
    return values.filterMap id

/-- Call a function. -/
def callFunction (m : Interpreter) (f : Function) (args : Arguments) : Action Value := do
  let values ← parameterValues f args
  let frame ← alloc (.frame { names := f.locals, globalNames := f.globalNames, values })
  let env : Env :=
    { globals := f.globals, frames := frame :: f.frames, path := f.qualifiedName ++ ".<locals>." }
  match f.body with
  | .expression e => m.evaluate env e
  | .block b =>
    match ← m.execute env b with
    | .return v => return v
    | _ => return .none

/-- Make a function. -/
def makeFunction (m : Interpreter) (env : Env) (name : String) (params : List (Parameter Expr))
    (body : FunctionBody) : Action Value := do
  let fallback (p : Parameter Expr) : Action (List (String × Value)) := do
    match p.fallback with
    | some e => return [(p.name, ← m.evaluate env e)]
    | none => return []
  let first ← (params.filter isPositional).mapM fallback
  let others ← (params.filter fun p => !isPositional p).mapM fallback
  for p in params do
    match p.annotation with
    | some e => let _ ← m.evaluate env e
    | none => pure ()
  let names := params.map (·.name)
  let (locals, globalNames) := match body with
    | .block b => (b.localNames names, b.globalNames)
    | .expression e => (names ++ e.assignedNames, [])
  allocValue (.function
    { name, qualifiedName := env.path ++ name, params, fallbacks := (first ++ others).flatten, body
      locals, globalNames, globals := env.globals, frames := env.frames })

end Stencil.Evaluation
