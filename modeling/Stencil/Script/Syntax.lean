/-!
# Syntax of scripts

Expressions and statements as trees. An expression that begins on another line than its statement
carries that line, and so does each statement, because failures are reported by line.
-/

namespace Stencil.Script

/-- Values that are written out. -/
inductive Constant where
  | none
  | bool (b : Bool)
  | int (n : Nat)
  | float (x : Float)
  | imaginary
  | str (s : String)
  | bytes
  | ellipsis
  deriving Inhabited

/-- Operators with two operands. -/
inductive BinaryOp where
  | add | sub | mul | matMul | div | floorDiv | mod | pow
  | shiftLeft | shiftRight | bitOr | bitXor | bitAnd
  deriving DecidableEq, Inhabited, Repr

/-- Operators with one operand. -/
inductive UnaryOp where
  | plus | minus | invert | not
  deriving DecidableEq, Inhabited, Repr

/-- Comparisons. -/
inductive CompareOp where
  | eq | ne | lt | le | gt | ge | is | isNot | isIn | isNotIn
  deriving DecidableEq, Inhabited, Repr

/-- How a parameter takes its argument. -/
inductive ParameterKind where
  /-- By position only. -/
  | positionalOnly
  /-- By position or by name. -/
  | positional
  /-- All further arguments by position. -/
  | rest
  /-- By name only. -/
  | named
  /-- All further arguments by name. -/
  | namedRest
  deriving DecidableEq, Inhabited, Repr

/-- A parameter of a function. -/
structure Parameter (ε : Type) where
  name : String
  kind : ParameterKind
  annotation : Option ε := none
  fallback : Option ε := none

/-- An argument of a call. -/
inductive Argument (ε : Type) where
  | positional (e : ε)
  /-- The items of a value, each as an argument. -/
  | spread (e : ε)
  | named (name : String) (e : ε)
  /-- The entries of a table, each as a named argument. -/
  | spreadNamed (e : ε)

/-- An entry of a table that is written out. -/
inductive Entry (ε : Type) where
  | pair (key value : ε)
  /-- All entries of another table. -/
  | spread (e : ε)

/-- A `for` clause of a comprehension with its conditions. -/
structure Clause (ε : Type) where
  target : ε
  source : ε
  conditions : List ε
  asynchronous : Bool := false

/-- A piece of a formatted text. -/
inductive TextPart (ε : Type) where
  | text (s : String)
  /-- A value with its conversion and the text that says how it is laid out. -/
  | value (e : ε) (conversion : Option Char) (format : Option ε)

/-- What a comprehension collects its items in. -/
inductive Collection where
  | list | set | generator
  deriving DecidableEq, Inhabited, Repr

/-- Expressions. -/
inductive Expr where
  | constant (c : Constant)
  | name (n : String)
  | list (items : List Expr)
  | tuple (items : List Expr)
  | set (items : List Expr)
  | dict (entries : List (Entry Expr))
  /-- A starred item or target. -/
  | star (e : Expr)
  | attribute (e : Expr) (name : String)
  | subscript (e index : Expr)
  | slice (lower upper step : Option Expr)
  | call (f : Expr) (args : List (Argument Expr))
  | unary (op : UnaryOp) (e : Expr)
  | binary (op : BinaryOp) (left right : Expr)
  /-- A chain of comparisons. -/
  | compare (first : Expr) (rest : List (CompareOp × Expr))
  | conjunction (items : List Expr)
  | disjunction (items : List Expr)
  | conditional (test yes no : Expr)
  | lambda (params : List (Parameter Expr)) (body : Expr)
  /-- An assignment that is an expression. -/
  | assign (target : String) (value : Expr)
  | comprehension (kind : Collection) (item : Expr) (clauses : List (Clause Expr))
  | dictComprehension (key value : Expr) (clauses : List (Clause Expr))
  | formatted (parts : List (TextPart Expr))
  | await (e : Expr)
  | yield (e : Option Expr)
  | yieldFrom (e : Expr)
  /-- An expression that begins on a line of its own. -/
  | at (line : Nat) (e : Expr)

instance : Inhabited Expr := ⟨.constant .none⟩

/-- Patterns of a `match` statement. -/
inductive Pattern where
  /-- Anything, bound to a name unless it is absent. -/
  | capture (name : Option String)
  | value (e : Expr)
  | sequence (items : List Pattern)
  /-- The rest of a sequence. -/
  | rest (name : Option String)
  | mapping (keys : List Expr) (values : List Pattern) (rest : Option String)
  | klass (type : Expr) (items : List Pattern) (names : List String) (named : List Pattern)
  | either (items : List Pattern)
  | bind (p : Pattern) (name : String)

instance : Inhabited Pattern := ⟨.capture none⟩

/-- A name that an import brings in: what is imported and the name it is bound to. -/
structure ImportedName where
  path : List String
  alias? : Option String

/-- A handler of a `try` statement. -/
structure Handler (σ : Type) where
  line : Nat
  type : Option Expr
  name : Option String
  body : List σ

/-- A case of a `match` statement. -/
structure Case (σ : Type) where
  pattern : Pattern
  guard : Option Expr
  body : List σ

/-- Statements; `at` gives the line of each. -/
inductive Stmt where
  | expr (e : Expr)
  /-- The targets are assigned from the left. -/
  | assign (targets : List Expr) (value : Expr)
  | augment (target : Expr) (op : BinaryOp) (value : Expr)
  /-- An annotated target; `simple` when it is a bare name. -/
  | annotate (target annotation : Expr) (value : Option Expr) (simple : Bool)
  | delete (targets : List Expr)
  | pass
  | breakLoop
  | continueLoop
  | return (e : Option Expr)
  | raise (e cause : Option Expr)
  | assert (test : Expr) (message : Option Expr)
  | global (names : List String)
  | nonlocal (names : List String)
  | import (names : List ImportedName)
  | importFrom (level : Nat) (path : List String) (names : List ImportedName)
  | if (test : Expr) (body orElse : List Stmt)
  | while (test : Expr) (body orElse : List Stmt)
  | for (target source : Expr) (body orElse : List Stmt) (asynchronous : Bool)
  | try (body : List Stmt) (handlers : List (Handler Stmt)) (orElse finish : List Stmt) (group : Bool)
  | with (items : List (Expr × Option Expr)) (body : List Stmt) (asynchronous : Bool)
  | function (decorators : List Expr) (name : String) (params : List (Parameter Expr))
      (result : Option Expr) (body : List Stmt) (asynchronous : Bool)
  | klass (decorators : List Expr) (name : String) (args : List (Argument Expr)) (body : List Stmt)
  | match (subject : Expr) (cases : List (Case Stmt))
  | at (line : Nat) (s : Stmt)

instance : Inhabited Stmt := ⟨.pass⟩

/-- A script: statements in order. -/
abbrev Block := List Stmt

end Stencil.Script
