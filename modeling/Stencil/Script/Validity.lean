import Stencil.Script.Scope

/-!
# Validity of scripts

What a script that reads well still has to keep: `return` and `yield` stand in functions, `break` and
`continue` in loops, a handler for everything comes last, declarations come before the names are used,
blocks are nested to a limited depth, and so on. Declarations of names are examined before the rest.
The result is the line of the first violation.
-/

namespace Stencil.Script.Validity

/-- Where a statement or an expression stands. -/
structure Place where
  line : Nat := 1
  /-- Inside a function. -/
  function : Bool := false
  /-- Inside an asynchronous function. -/
  asynchronous : Bool := false
  loop : Bool := false
  comprehension : Bool := false
  /-- How many loops, guards and resources are around it in its scope. -/
  depth : Nat := 0

/-- The most blocks that may be nested in one scope. -/
def maxDepth : Nat := 20

/-- The line of the place unless a condition holds. -/
def Place.require (p : Place) (b : Bool) : Option Nat := if b then none else some p.line

/-- The named arguments of a call. -/
def argumentNames (args : List (Argument Expr)) : List String :=
  args.filterMap fun a => match a with
    | .named n _ => some n
    | _ => none

/-- Whether no name occurs twice. -/
def distinct : List String → Bool
  | [] => true
  | n :: ns => !ns.contains n && distinct ns

/-! ## Declarations -/

/-- The first expression that assigns to a name where a comprehension does not allow it. -/
def assignment (line : Nat) : Expr → Option Nat
  | .at l e => assignment l e
  | e =>
    let own : Option Nat :=
      match e with
      | .comprehension _ item clauses => comprehension (item.assignedNames) clauses
      | .dictComprehension k v clauses => comprehension (k.assignedNames ++ v.assignedNames) clauses
      | _ => none
    own <|> e.children.attach.findSome? fun ⟨c, _⟩ => assignment line c
termination_by e => sizeOf e
decreasing_by
  · simp only [Expr.at.sizeOf_spec]
    omega
  · exact Expr.sizeOf_lt_of_mem_children ‹_›
where
  /-- Assignments that a comprehension does not allow: in what it goes through, and to the names it
  runs over. -/
  comprehension (assigned : List String) (clauses : List (Clause Expr)) : Option Nat :=
    let sources := clauses.flatMap fun c => c.source.assignedNames
    let targets := clauses.flatMap fun c => c.target.targetNames
    let conditions := clauses.flatMap fun c => c.conditions.flatMap Expr.assignedNames
    if sources.isEmpty && !(assigned ++ conditions).any targets.contains then none else some line

/-- The first misplaced declaration of a scope: a name is declared before it is used, and parameters
cannot be declared. `outer` holds the names of the functions around the scope. -/
def declaration (function : Bool) (params outer : List String) (seen : List String) :
    List (Nat × Stmt) → Option Nat
  | [] => none
  | (line, s) :: rest =>
    let own : Option Nat :=
      match s with
      | .global ns => if ns.any fun n => params.contains n || seen.contains n then some line else none
      | .nonlocal ns =>
        if !function || ns.any fun n => params.contains n || seen.contains n || !outer.contains n then
          some line
        else none
      | .importFrom _ _ [] => if function then some line else none
      | _ => s.exprs.findSome? (assignment line)
    own <|> declaration function params outer
      (seen ++ s.ownTargets ++ s.exprs.flatMap Expr.mentions) rest

mutual

/-- The first misplaced declaration of a block that is a scope of its own and of the scopes inside. -/
def scope (function : Bool) (params outer : List String) (b : Block) : Option Nat :=
  declaration function params outer [] b.flat <|>
    innerList function (if function then outer ++ b.localNames params else outer) b
termination_by 2 * sizeOf b + 1

/-- The first misplaced declaration in the scopes inside the statements of a block. -/
def innerList (function : Bool) (outer : List String) (b : Block) : Option Nat :=
  b.attach.findSome? fun ⟨s, _⟩ => inner function outer s
termination_by 2 * sizeOf b
decreasing_by
  have := List.sizeOf_lt_of_mem ‹_›
  omega

/-- The first misplaced declaration in the scopes inside a statement. -/
def inner (function : Bool) (outer : List String) (s : Stmt) : Option Nat :=
  match s with
  | .function _ _ params _ body _ => scope true (params.map (·.name)) outer body
  | .klass _ _ _ body => scope false [] outer body
  | s => s.blocks.attach.findSome? fun ⟨b, _⟩ => b.attach.findSome? fun ⟨c, _⟩ => inner function outer c
termination_by 2 * sizeOf s
decreasing_by
  · simp only [Stmt.function.sizeOf_spec]
    omega
  · simp only [Stmt.klass.sizeOf_spec]
    omega
  · have := Stmt.sizeOf_lt_of_mem_blocks ‹_› ‹_›
    omega

end

/-! ## Control -/

/-- The first violation inside an expression. -/
def expression (p : Place) : Expr → Option Nat
  | .at l e => expression { p with line := l } e
  | .lambda params body =>
    ((params.flatMap Parameter.exprs).attach.findSome? fun ⟨c, h⟩ =>
      have : c ∈ (Expr.lambda params body).children := List.mem_append_left _ h
      expression p c) <|>
    expression { line := p.line, function := true } body
  | e =>
    let own : Option Nat :=
      match e with
      | .yield _ => p.require (p.function && !p.comprehension)
      | .yieldFrom _ => p.require (p.function && !p.comprehension && !p.asynchronous)
      | .await _ => p.require (p.function && p.asynchronous)
      | .call _ args => p.require (distinct (argumentNames args))
      | .comprehension kind _ clauses =>
        p.require (kind == .generator || p.asynchronous || clauses.all (!·.asynchronous))
      | .dictComprehension _ _ clauses =>
        p.require (p.asynchronous || clauses.all (!·.asynchronous))
      | _ => none
    let within :=
      match e with
      | .comprehension .. => true
      | .dictComprehension .. => true
      | _ => p.comprehension
    own <|> e.children.attach.findSome? fun ⟨c, _⟩ => expression { p with comprehension := within } c
termination_by e => sizeOf e
decreasing_by
  · simp only [Expr.at.sizeOf_spec]
    omega
  · exact Expr.sizeOf_lt_of_mem_children this
  · simp only [Expr.lambda.sizeOf_spec]
    omega
  · exact Expr.sizeOf_lt_of_mem_children ‹_›

/-- Whether a handler for everything comes before another one. -/
def catchAllEarly : List (Handler Stmt) → Option Nat
  | [] => none
  | [_] => none
  | h :: rest => if h.type.isNone then some h.line else catchAllEarly rest

/-- Whether a pattern matches anything. -/
def irrefutable : Pattern → Bool
  | .capture _ => true
  | .bind p _ => irrefutable p
  | .either ps => ps.attach.any fun ⟨p, _⟩ => irrefutable p
  | _ => false

/-- What a statement itself violates. -/
def own (p : Place) : Stmt → Option Nat
  | .return _ => p.require p.function
  | .breakLoop => p.require p.loop
  | .continueLoop => p.require p.loop
  | .while .. => p.require (p.depth < maxDepth)
  | .for _ _ _ _ asynchronous =>
    p.require (p.depth < maxDepth && (!asynchronous || (p.function && p.asynchronous)))
  | .with _ _ asynchronous =>
    p.require (p.depth < maxDepth && (!asynchronous || (p.function && p.asynchronous)))
  | .try .. => p.require (p.depth < maxDepth)
  | .klass _ _ args _ => p.require (distinct (argumentNames args))
  | .match _ cases =>
    p.require (cases.dropLast.all fun c => c.guard.isSome || !irrefutable c.pattern)
  | _ => none

/-- The blocks of a statement with the places where their statements stand. -/
def places (p : Place) (s : Stmt) : List Place :=
  match s with
  | .at l _ => [{ p with line := l }]
  | .while .. => [{ p with loop := true, depth := p.depth + 1 }, p]
  | .for .. => [{ p with loop := true, depth := p.depth + 1 }, p]
  | .with .. => [{ p with depth := p.depth + 1 }]
  | .try _ handlers _ finish _ =>
    let around := if finish.isEmpty then p.depth else p.depth + 1
    let body := if handlers.isEmpty then around else around + 1
    { p with depth := body } ::
      handlers.map (fun h => { p with depth := around + if h.name.isSome then 2 else 1 }) ++
        [{ p with depth := around }, p]
  | .function _ _ _ _ _ asynchronous => [{ line := p.line, function := true, asynchronous }]
  | .klass .. => [{ line := p.line }]
  | s => s.blocks.map fun _ => p

/-- The first violation inside a statement. -/
def statement (p : Place) (s : Stmt) : Option Nat :=
  own p s <|>
    s.exprs.findSome? (expression p) <|>
    (match s with
      | .try _ handlers _ _ _ => catchAllEarly handlers
      | _ => none) <|>
    (s.blocks.attach.zip (places p s)).findSome? fun (⟨b, _⟩, q) =>
      b.attach.findSome? fun ⟨c, _⟩ => statement q c
termination_by sizeOf s
decreasing_by exact Stmt.sizeOf_lt_of_mem_blocks ‹_› ‹_›

/-- The line of the first violation in a script. -/
def invalidLine? (b : Block) : Option Nat := scope false [] [] b <|> b.findSome? (statement {})

/-- The line of the first violation in an expression by itself. -/
def invalidExpressionLine? (e : Expr) : Option Nat := assignment 1 e <|> expression {} e

end Stencil.Script.Validity
