import Stencil.Rendering.Fragment

/-!
# Deferred expressions

A deferred expression is evaluated after everything has been written. It sees the names as they were
when its directive ran; objects that changed since then are seen as they are now. A pass collects the
deferred expressions of a render and evaluates them in the order in which they were created.
-/

namespace Stencil

open World Evaluation

/-- Whether an exception leaves a template as it is: faults and missing templates know their own place,
and exceptions outside the common root are no failures of a template. -/
def passesThrough (v : Value) : Action Bool := do
  match ← typeOf v with
  | .fault _ => return true
  | .exception "TemplateNotFound" => return true
  | t => return !(← isSubtype t (.exception "Exception"))

/-- The fault for an exception that the code of a segment raised. -/
def evaluationFault (m : Interpreter) (templateName : String) (s : Segment) (e : Value) :
    Action Value := do
  let error := (← typeName e) ++ ": " ++ (← m.text e)
  let f := Fault.evaluation error s.code { template := some templateName, line := some s.line }
  logMessage "viewer.templates.engine" ("Template " ++ f.place.text ++ " failed: " ++ error)
  allocValue (.exception { type := .fault f.kind, fault := some f, cause := some e })

/-- Evaluate for a template: an exception that does not pass through becomes a fault of the segment. -/
def wrapping {α : Type} (m : Interpreter) (templateName : String) (segment : Raised → Segment)
    (x : Action α) : Action α := do
  match ← attempt x with
  | .ok a => return a
  | .error (.raised r) =>
    if ← passesThrough r.value then throw (.raised { value := r.value })
    else raiseValue (← evaluationFault m templateName (segment r) r.value)
  | .error .exhausted => throw .exhausted

namespace Binding

/-- Evaluate a deferred expression, once. -/
def evaluate (m : Interpreter) (r : Ref) : Action Value := do
  match ← load r with
  | .binding b =>
    if b.resolved then return (b.value.map Value.str).getD .none
    else
      let v ← wrapping m b.templateName (fun _ => b.segment) (m.evaluate { globals := b.globals } b.code)
      let s ← match v with
        | .none => pure ""
        | v => m.text v
      store r (.binding { b with value := some s, resolved := true })
      return .str s
  | _ => return .none

end Binding

namespace RenderPass

/-- The deferred expressions of a pass in the order of their creation. -/
def bindings (r : Ref) : Action (Array Ref) := do
  match ← load r with
  | .pass bs => return bs
  | _ => return #[]

/-- Add a deferred expression. -/
def register (r b : Ref) : Action Unit := do store r (.pass ((← bindings r).push b))

/-- Evaluate the deferred expressions from an index on, also those that are created meanwhile. -/
def evaluateFrom (m : Interpreter) (r : Ref) : Action Unit :=
  m.repeatUntil (fun (i : Nat) => do
    match (← bindings r)[i]? with
    | some b =>
      let _ ← Binding.evaluate m b
      return .ok (i + 1)
    | none => return .error ()) 0

/-- Evaluate every deferred expression, then join a fragment. -/
def resolve (m : Interpreter) (r fragment : Ref) : Action String := do
  let n := (← bindings r).size
  if n = 0 then Fragment.join fragment
  else
    logMessage "viewer.templates.engine"
      ("Resolving " ++ Text.natText n ++ " deferred expression(s)")
    evaluateFrom m r
    Fragment.join fragment

end RenderPass

end Stencil
