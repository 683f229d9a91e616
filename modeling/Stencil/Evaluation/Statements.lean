import Stencil.Evaluation.Expressions

/-!
# Running statements

What statements do, and how they leave the block they stand in. An exception that is being handled is
remembered until its handler ends, so that it can be raised again.
-/

namespace Stencil.Evaluation

open World Script

section

variable (m : Interpreter)

/-- Assign to a target what an operator makes of its value and another one. -/
def augment (env : Env) (target : Expr) (op : BinaryOp) (e : Expr) : Action Unit := do
  match target.core with
  | .name n =>
    let now ← readName m env n
    bindName env n (← operateInPlace m op now (← m.evaluate env e))
  | .attribute o n =>
    let v ← m.evaluate env o
    let now ← m.attributeOf v n
    setAttribute v n (← operateInPlace m op now (← m.evaluate env e))
  | .subscript o i =>
    let v ← m.evaluate env o
    let index ← m.evaluate env i
    let now ← item v index
    setItem m v index (← operateInPlace m op now (← m.evaluate env e))
  | _ => unavailable "target"

/-- The exception that a value stands for: itself, or a new one of a type. -/
def exceptionOf (v : Value) (report : String) : Action Value := do
  match v with
  | .type t => if isExceptionType t then m.apply v [] else typeError report
  | v =>
    match ← exception? v with
    | some _ => return v
    | none => typeError report

/-- Raise the exception that is being handled once more. -/
def raiseAgain (env : Env) : Action Flow := do
  match (← get).handling with
  | [] => raiseText "RuntimeError" "No active exception to reraise"
  | v :: _ =>
    let last := (← exception? v).bind (·.line)
    throw (.raised { value := v, line := if env.frames.isEmpty then last else none })

/-- Change what an exception remembers of how it was raised. -/
def amendException (v : Value) (f : ExceptionObject → ExceptionObject) : Action Unit := do
  match v, ← exception? v with
  | .ref r, some x => store r (.exception (f x))
  | _, _ => return ()

/-- Raise an exception, with the one that caused it. -/
def raiseNew (env : Env) (e : Expr) (cause : Option Expr) : Action Flow := do
  let v ← m.evaluate env e
  let from? ← cause.mapM (m.evaluate env)
  let v ← exceptionOf m v "exceptions must derive from BaseException"
  match from? with
  | none => pure ()
  | some c =>
    let c ← match c with
      | .none => pure none
      | c => some <$> exceptionOf m c "exception causes must derive from BaseException"
    amendException v fun x => { x with cause := c }
  raiseValue v

/-- Repeat a block while a condition holds. -/
def runWhile (env : Env) (test : Expr) (body orElse : Block) : Action Flow := do
  let ended ← m.repeatUntil (fun (_ : Unit) => do
    if ← truth (← m.evaluate env test) then
      match ← m.execute env body with
      | .breakLoop => return .error (some Flow.next)
      | .return v => return .error (some (.return v))
      | _ => return .ok ()
    else return .error none) ()
  match ended with
  | some flow => return flow
  | none => m.execute env orElse

/-- Run a block for each item of a value. -/
def runFor (env : Env) (target source : Expr) (body orElse : Block) : Action Flow := do
  let it ← iterate (← m.evaluate env source)
  let ended ← m.repeatUntil (fun (_ : Unit) => do
    match ← advance m it with
    | none => return .error none
    | some v =>
      assign m env v target
      match ← m.execute env body with
      | .breakLoop => return .error (some Flow.next)
      | .return v => return .error (some (.return v))
      | _ => return .ok ()) ()
  match ended with
  | some flow => return flow
  | none => m.execute env orElse

/-- Whether a handler for some types takes an exception. -/
def handles (types e : Value) : Action Bool := do
  let all := match types with
    | .tuple items => items
    | v => [v]
  let refs ← all.mapM fun v => do
    match v with
    | .type t =>
      if isExceptionType t then return t
      else
        typeError "catching classes that do not inherit from BaseException is not allowed"
    | _ => typeError "catching classes that do not inherit from BaseException is not allowed"
  refs.anyM (isInstance e)

/-- Run something while an exception is being handled. -/
def whileHandling {α : Type} (e : Value) (x : Action α) : Action α := do
  let before := (← get).handling
  modify fun w => { w with handling := e :: before }
  let outcome ← attempt x
  modify fun w => { w with handling := before }
  resume outcome

/-- Remember on which line an exception was raised. -/
def rememberLine (r : Raised) : Action Unit :=
  amendException r.value fun x => { x with line := r.line }

/-- Run the block of a handler; the name of the exception is gone afterwards. -/
def runHandler (env : Env) (name : Option String) (e : Value) (body : Block) : Action Flow :=
  match name with
  | none => m.execute env body
  | some n => do
    bindName env n e
    let outcome ← attempt (m.execute env body)
    bindName env n .none
    unbindName env n
    resume outcome

/-- Go through the handlers for an exception; one that none of them takes goes on. -/
def findHandler (env : Env) (r : Raised) : List (Handler Stmt) → Action Flow
  | [] => throw (.raised r)
  | h :: rest => do
    let takes ← match h.type with
      | none => pure true
      | some t => onLine env h.line (do handles (← m.evaluate env t) r.value)
    if takes then runHandler m env h.name r.value h.body
    else findHandler env r rest

/-- Run a block with handlers for its exceptions. -/
def runProtected (env : Env) (body : Block) (handlers : List (Handler Stmt)) (orElse : Block) :
    Action Flow := do
  match ← attempt (m.execute env body) with
  | .ok .next => m.execute env orElse
  | .ok flow => return flow
  | .error (.raised r) =>
    rememberLine r
    whileHandling r.value (findHandler m env r handlers)
  | .error .exhausted => throw .exhausted

/-- Run something and then a block, whatever happens. -/
def runFinally (env : Env) (x : Action Flow) (finish : Block) : Action Flow := do
  match ← attempt x with
  | .ok flow =>
    match ← m.execute env finish with
    | .next => return flow
    | other => return other
  | .error (.raised r) =>
    rememberLine r
    match ← whileHandling r.value (m.execute env finish) with
    | .next => throw (.raised r)
    | other => return other
  | .error .exhausted => throw .exhausted

/-- Bind a name to a function, after its decorators have been applied. -/
def defineFunction (env : Env) (decorators : List Expr) (name : String)
    (params : List (Parameter Expr)) (result : Option Expr) (body : Block) : Action Unit := do
  let wrappers ← decorators.mapM (m.evaluate env)
  let f ← makeFunction m env name params (.block body)
  if let some e := result then
    let _ ← m.evaluate env e
  let f ← wrappers.foldrM (fun g f => m.apply g [f]) f
  bindName env name f

/-- Assign to an annotated target. Outside of functions the annotation is evaluated too. -/
def annotate (env : Env) (target annotation : Expr) (value : Option Expr) : Action Unit := do
  if let some e := value then
    assign m env (← m.evaluate env e) target
  if env.frames.isEmpty then
    let _ ← m.evaluate env annotation

/-- Run a statement. -/
def executeStmt (env : Env) (s : Stmt) : Action Flow := do
  let done (x : Action Unit) : Action Flow := do
    x
    return .next
  match s with
  | .expr e => do
    let _ ← m.evaluate env e
    return .next
  | .assign targets e => done do
    let v ← m.evaluate env e
    targets.forM (assign m env v)
  | .augment t op e => done (augment m env t op e)
  | .annotate t a v _ => done (annotate m env t a v)
  | .delete ts => done (ts.forM (delete m env))
  | .pass => return .next
  | .breakLoop => return .breakLoop
  | .continueLoop => return .continueLoop
  | .return e => return .return (← bound m env e)
  | .raise none _ => raiseAgain env
  | .raise (some e) cause => raiseNew m env e cause
  | .assert test message =>
    if ← truth (← m.evaluate env test) then return .next
    else
      match message with
      | none => raise "AssertionError" []
      | some e => raise "AssertionError" [← m.evaluate env e]
  | .global _ => return .next
  | .nonlocal _ => return .next
  | .if test body orElse =>
    if ← truth (← m.evaluate env test) then m.execute env body else m.execute env orElse
  | .while test body orElse => runWhile m env test body orElse
  | .for target source body orElse false => runFor m env target source body orElse
  | .try body handlers orElse [] false => runProtected m env body handlers orElse
  | .try body handlers orElse finish false =>
    runFinally m env (runProtected m env body handlers orElse) finish
  | .function decorators name params result body false =>
    done (defineFunction m env decorators name params result body)
  | .at line s => onLine env line (m.execute env [s])
  | _ => unavailable "statement"

/-- Run statements in order until one of them leaves the block. -/
def executeBlock (env : Env) : Block → Action Flow
  | [] => return .next
  | s :: rest => do
    match ← executeStmt m env s with
    | .next => executeBlock env rest
    | flow => return flow

end

end Stencil.Evaluation
