import Stencil.Evaluation.Interpreter

/-!
# Fragments

What a run of a template has written so far: texts, and deferred expressions in the place of their
future value. A fragment that is written into another one is spliced into it.
-/

namespace Stencil

open World Evaluation

namespace Fragment

/-- The chunks of a fragment. -/
def chunks (r : Ref) : Action (Array Value) := do
  match ← load r with
  | .fragment cs => return cs
  | _ => return #[]

/-- Add a chunk as it is. -/
def append (r : Ref) (chunk : Value) : Action Unit := do
  store r (.fragment ((← chunks r).push chunk))

/-- Add a value: a fragment is spliced, the absent value writes nothing, and anything else is written as
text. -/
def appendValue (m : Interpreter) (r : Ref) (v : Value) : Action Unit := do
  match v, ← object? v with
  | _, some (.fragment more) => store r (.fragment ((← chunks r) ++ more))
  | .none, _ => return ()
  | v, _ =>
    let s ← m.text v
    append r (.str s)

/-- The deferred expressions among the chunks. -/
def bindings (r : Ref) : Action (List Ref) := do
  let found ← (← chunks r).toList.mapM fun c => do
    match c, ← object? c with
    | .ref b, some (.binding _) => return some b
    | _, _ => return none
  return found.filterMap id

/-- Stop when a chunk is a deferred expression that has not been resolved. -/
def checkResolved (c : Value) : Action Unit := do
  match ← object? c with
  | some (.binding b) =>
    if !b.resolved then
      raiseFault (Fault.deferredUnresolved b.segment.code
        { template := some b.templateName, line := some b.segment.line })
  | _ => return ()

/-- The text of a chunk, which stands at a place among others. -/
def chunkText (index : Nat) (c : Value) : Action String := do
  let v ← match ← object? c with
    | some (.binding b) => pure ((b.value.map Value.str).getD .none)
    | _ => pure c
  match v.text? with
  | some s => return s
  | none =>
    typeError ("sequence item " ++ Text.natText index ++ ": expected str instance, " ++
      (← typeName v) ++ " found")

/-- The text of a fragment; every deferred expression in it must have been resolved. -/
def join (r : Ref) : Action String := do
  let cs := (← chunks r).toList
  cs.forM checkResolved
  let texts ← cs.zipIdx.mapM fun p => chunkText p.2 p.1
  return String.join texts

end Fragment

end Stencil
