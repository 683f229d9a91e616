import Stencil.Evaluation.Arithmetic
import Stencil.Script.Scope
import Stencil.Text.Search

/-!
# What evaluation is built from

Evaluating an expression, running statements, calling a value, reading an attribute and writing a value
as text all need one another. Each is defined over an `Interpreter`, which supplies the others for
everything that lies deeper.
-/

namespace Stencil.Evaluation

open World Script

/-- Where an expression is evaluated. Without frames this is the outermost level of a script. -/
structure Env where
  globals : Ref
  /-- The frames around, the innermost first. -/
  frames : List Ref := []
  /-- What the qualified names of functions begin with here. -/
  path : String := ""
  deriving Inhabited

/-- How a statement leaves the block it stands in. -/
inductive Flow where
  | next
  | breakLoop
  | continueLoop
  | return (v : Value)
  deriving Inhabited

/-- The arguments of a call: by position, and by name. -/
structure Arguments where
  items : List Value := []
  named : List (String × Value) := []
  deriving Inhabited

/-- The parts of evaluation that need one another. -/
structure Interpreter where
  evaluate : Env → Expr → Action Value
  execute : Env → Block → Action Flow
  call : Value → Arguments → Action Value
  attributeOf : Value → String → Action Value
  text : Value → Action String
  /-- How often a loop may go around. -/
  rounds : Nat

/-- The interpreter that has no steps left. -/
def Interpreter.spent : Interpreter where
  evaluate _ _ := throw .exhausted
  execute _ _ := throw .exhausted
  call _ _ := throw .exhausted
  attributeOf _ _ := throw .exhausted
  text _ := throw .exhausted
  rounds := 0

namespace Interpreter

variable (m : Interpreter)

/-- Call a value with arguments by position. -/
def apply (f : Value) (args : List Value) : Action Value := m.call f { items := args }

/-- Repeat a step until it gives a value. -/
def repeatUntil {σ α : Type} (step : σ → Action (Except α σ)) (s : σ) : Action α :=
  go m.rounds s
where
  /-- Repeat a step a number of times at most. -/
  go (left : Nat) (s : σ) : Action α :=
    match left with
    | 0 => throw .exhausted
    | left + 1 => do
      match ← step s with
      | .error a => return a
      | .ok s => go left s

end Interpreter

end Stencil.Evaluation
