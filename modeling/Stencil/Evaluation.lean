import Stencil.Evaluation.Statements
import Stencil.Evaluation.Writing

/-!
# Evaluation

The interpreter. Each level of it evaluates with the help of the level below; the lowest one has no
steps left. A computation that comes to an end gives the same outcome on every level that is high
enough.
-/

namespace Stencil.Evaluation

open World

/-- How often a loop may go around. -/
def maxRounds : Nat := 1000000

/-- The interpreter with a number of levels. -/
def interpreter : Nat → Interpreter
  | 0 => .spent
  | n + 1 =>
    { evaluate := fun env e => evaluateExpr (interpreter n) env e
      execute := fun env b => executeBlock (interpreter n) env b
      call := fun f args => callValue (interpreter n) f args
      attributeOf := fun v name => readAttribute (interpreter n) v name
      text := fun v =>
        textOf (interpreter n) (fun self => View.render (interpreter n) self .none) v
      rounds := maxRounds }

/-- How many levels scripts are evaluated with. -/
def maxLevels : Nat := 6000

/-- The interpreter of scripts. -/
def machine : Interpreter := interpreter maxLevels

end Stencil.Evaluation
