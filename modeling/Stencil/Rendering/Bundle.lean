import Stencil.Evaluation.Containers

/-!
# Sets of assets and bundles

The sets of stylesheets and scripts that a render collects. Registering adds references in place and
keeps those that are there already where they are.
-/

namespace Stencil

open World Evaluation

namespace AssetSet

/-- The members of a set of assets. -/
def members (r : Ref) : Action (AssetKind × OrderedSet Value) := do
  match ← load r with
  | .assets kind refs => return (kind, refs)
  | _ => return (.plain, {})

/-- Change the members of a set of assets. -/
def change (r : Ref) (f : OrderedSet Value → OrderedSet Value) : Action Unit := do
  let (kind, refs) ← members r
  store r (.assets kind (f refs))

/-- A new set of the items of a value; the absent value and empty ones give the empty set. -/
def make (m : Interpreter) (kind : AssetKind) (refs : Value) : Action Ref := do
  if ← truth refs then
    let items ← collect m refs
    items.forM checkKey
    alloc (.assets kind (OrderedSet.ofList items))
  else alloc (.assets kind {})

/-- Add one reference. -/
def add (r : Ref) (v : Value) : Action Unit := do
  checkKey v
  change r (·.insert v)

/-- Take one reference away if it is there. -/
def discard (r : Ref) (v : Value) : Action Unit := do
  checkKey v
  change r (·.erase v)

/-- Do something with each item of a value. -/
def each (m : Interpreter) (v : Value) (f : Value → Action Unit) : Action Unit := do
  let _ ← findItem m v fun x => do
    f x
    return (none : Option Unit)

/-- Add the items of a value, one after another. -/
def update (m : Interpreter) (r : Ref) (v : Value) : Action Unit := each m v (add r)

/-- The tags of a set of assets. -/
def render (m : Interpreter) (r : Ref) : Action String := do
  let (kind, refs) ← members r
  let texts ← refs.toList.mapM m.text
  return Assets.render kind texts

/-- The first member, taken away. -/
def pop (r : Ref) : Action Value := do
  let (_, refs) ← members r
  match refs.toList with
  | v :: _ =>
    change r (·.erase v)
    return v
  | [] => raise "KeyError" []

/-- The members of what an operator takes on its right. -/
def operand (m : Interpreter) (v : Value) : Action (OrderedSet Value) := do
  match ← assets? v with
  | some (_, refs) => return refs
  | none =>
    let items ← collect m v
    items.forM checkKey
    return OrderedSet.ofList items

/-- Change a set in place by an operator; `false` when the operator has no meaning for sets. -/
def assign (m : Interpreter) (op : Script.BinaryOp) (r : Ref) (v : Value) : Action Bool := do
  match op with
  | .bitOr =>
    update m r v
    return true
  | .bitAnd =>
    if !(← isIterable v) then unsupported "-" (.ref r) v
    else
      let kept ← operand m v
      change r fun refs => refs.eraseMany (refs.diff kept).toList
      return true
  | .sub =>
    if v.same (.ref r) then change r fun _ => {}
    else each m v (discard r)
    return true
  | .bitXor =>
    if v.same (.ref r) then change r fun _ => {}
    else
      let more ← if ← truth v then operand m v else pure {}
      change r fun refs => more.toList.foldl OrderedSet.toggle refs
    return true
  | _ => return false

end AssetSet

namespace Bundle

/-- The sets of a bundle. -/
def parts (r : Ref) : Action (Ref × Ref) := do
  match ← load r with
  | .bundle css js => return (css, js)
  | _ => return (r, r)

/-- A new bundle of the items of two values. -/
def make (m : Interpreter) (css js : Value) : Action Ref := do
  let c ← AssetSet.make m .stylesheet css
  let j ← AssetSet.make m .script js
  alloc (.bundle c j)

/-- Add the references of another bundle. -/
def register (m : Interpreter) (r : Ref) (other : Value) : Action Unit := do
  let (css, js) ← parts r
  AssetSet.update m css (← m.attributeOf other "css")
  AssetSet.update m js (← m.attributeOf other "js")

/-- The tags of a bundle: stylesheets first, each part only when it has some. -/
def render (m : Interpreter) (r : Ref) : Action String := do
  let (css, js) ← parts r
  let texts := [← AssetSet.render m css, ← AssetSet.render m js]
  return "\n".intercalate (texts.filter (· != ""))

end Bundle

end Stencil
