import Stencil.Rendering.Bundle
import Stencil.Rendering.Fragment

/-!
# Values as text

The text that a value is written as. Texts stand for themselves, exceptions for their message, sets of
assets for their tags, fragments for what they hold and views for their output; every other value is
written in its notation.
-/

namespace Stencil.Evaluation

open World

/-- The text of an exception. -/
def exceptionText (m : Interpreter) (e : ExceptionObject) : Action String := do
  match e.fault, e.text with
  | some f, _ => return f.text
  | none, some s => return s
  | none, none =>
    match e.args with
    | [] => return ""
    | [v] => if ← isSubtype e.type (.exception "KeyError") then reprOf v else m.text v
    | [a, b] =>
      if (← isSubtype e.type (.exception "OSError")) && e.type != .exception "TemplateNotFound" then
        return "[Errno " ++ (← m.text a) ++ "] " ++ (← m.text b)
      else reprOf (.tuple e.args)
    | vs => reprOf (.tuple vs)

/-- The text of a value; `render` gives the output of a view. -/
def textOf (m : Interpreter) (render : Value → Action String) (v : Value) : Action String := do
  match v with
  | .str s => return s
  | .stage s => return "RenderStage." ++ s.name.toUpper
  | .severity s => return "Severity." ++ s.name.toUpper
  | .domain d => return d.name
  | .ref r =>
    match ← load r with
    | .exception e => exceptionText m e
    | .assets .. => AssetSet.render m r
    | .fragment _ => Fragment.join r
    | .instance cls _ => if (← classAt cls).kind == .view then render v else reprOf v
    | _ => reprOf v
  | v => reprOf v

end Stencil.Evaluation
