import Stencil.Script.Traversal

/-!
# Names and scopes

Which names a statement binds in its scope. A function and a class are scopes of their own; an
assignment inside an expression binds in the scope around it, also when it stands in a comprehension.
-/

namespace Stencil.Script

namespace Expr

/-- The names that a target binds. -/
def targetNames : Expr → List String
  | .name n => [n]
  | .attribute _ _ => []
  | .subscript _ _ => []
  | e => e.children.attach.flatMap fun ⟨c, _⟩ => targetNames c
termination_by e => sizeOf e
decreasing_by exact sizeOf_lt_of_mem_children ‹_›

/-- The names that assignments inside an expression bind in the scope around it. -/
def assignedNames : Expr → List String
  | .assign n v => n :: assignedNames v
  | .lambda params body =>
    (params.flatMap Parameter.exprs).attach.flatMap fun ⟨c, h⟩ =>
      have : c ∈ (Expr.lambda params body).children := List.mem_append_left _ h
      assignedNames c
  | e => e.children.attach.flatMap fun ⟨c, _⟩ => assignedNames c
termination_by e => sizeOf e
decreasing_by
  · simp only [assign.sizeOf_spec]
    omega
  · exact sizeOf_lt_of_mem_children this
  · exact sizeOf_lt_of_mem_children ‹_›

/-- The names that an expression mentions in the scope around it. -/
def mentions : Expr → List String
  | .name n => [n]
  | .assign n v => n :: mentions v
  | .lambda params body =>
    (params.flatMap Parameter.exprs).attach.flatMap fun ⟨c, h⟩ =>
      have : c ∈ (Expr.lambda params body).children := List.mem_append_left _ h
      mentions c
  | .comprehension _ _ _ => []
  | .dictComprehension _ _ _ => []
  | e => e.children.attach.flatMap fun ⟨c, _⟩ => mentions c
termination_by e => sizeOf e
decreasing_by
  · simp only [assign.sizeOf_spec]
    omega
  · exact sizeOf_lt_of_mem_children this
  · exact sizeOf_lt_of_mem_children ‹_›

end Expr

namespace Pattern

/-- The names that a pattern binds. -/
def names : Pattern → List String
  | .capture n => n.toList
  | .value _ => []
  | .sequence items => items.attach.flatMap fun ⟨p, _⟩ => names p
  | .rest n => n.toList
  | .mapping _ values more => (values.attach.flatMap fun ⟨p, _⟩ => names p) ++ more.toList
  | .klass _ items _ named =>
    (items.attach.flatMap fun ⟨p, _⟩ => names p) ++ (named.attach.flatMap fun ⟨p, _⟩ => names p)
  | .either items => items.attach.flatMap fun ⟨p, _⟩ => names p
  | .bind p n => names p ++ [n]

end Pattern

/-- The name that an import binds. -/
def ImportedName.bound (i : ImportedName) : String := i.alias?.getD (i.path.headD "")

namespace Stmt

/-- The expressions that a statement contains directly in its scope. -/
def exprs : Stmt → List Expr
  | .expr e => [e]
  | .assign targets value => value :: targets
  | .augment t _ v => [t, v]
  | .annotate t a v _ => v.toList ++ [t, a]
  | .delete ts => ts
  | .return e => e.toList
  | .raise e c => e.toList ++ c.toList
  | .assert t m => t :: m.toList
  | .if t _ _ => [t]
  | .while t _ _ => [t]
  | .for t s _ _ _ => [t, s]
  | .try _ handlers _ _ _ => handlers.flatMap (·.type.toList)
  | .with items _ _ => items.flatMap fun i => i.1 :: i.2.toList
  | .function ds _ ps r _ _ => ds ++ ps.flatMap Parameter.exprs ++ r.toList
  | .klass ds _ args _ => ds ++ args.map Argument.expr
  | .match s cases => s :: cases.flatMap (·.guard.toList)
  | _ => []

/-- The names that a statement itself binds, apart from assignments inside its expressions. -/
def ownTargets : Stmt → List String
  | .assign targets _ => targets.flatMap Expr.targetNames
  | .augment t _ _ => t.targetNames
  | .annotate t _ _ _ => t.targetNames
  | .delete ts => ts.flatMap Expr.targetNames
  | .import names => names.map ImportedName.bound
  | .importFrom _ _ names => names.map ImportedName.bound
  | .for t _ _ _ _ => t.targetNames
  | .try _ handlers _ _ _ => handlers.flatMap (·.name.toList)
  | .with items _ _ => items.flatMap fun i => i.2.toList.flatMap Expr.targetNames
  | .function _ n _ _ _ _ => [n]
  | .klass _ n _ _ => [n]
  | .match _ cases => cases.flatMap (·.pattern.names)
  | _ => []

/-- Whether the blocks of a statement are scopes of their own. -/
def isScope : Stmt → Bool
  | .function .. => true
  | .klass .. => true
  | _ => false

/-- A statement and those inside it that belong to the same scope, each with its line. -/
def flat (line : Nat) (s : Stmt) : List (Nat × Stmt) :=
  match s with
  | .at l s => flat l s
  | s =>
    (line, s) ::
      if s.isScope then []
      else s.blocks.attach.flatMap fun ⟨b, _⟩ => b.attach.flatMap fun ⟨c, _⟩ => flat line c
termination_by sizeOf s
decreasing_by
  · simp only [«at».sizeOf_spec]
    omega
  · exact sizeOf_lt_of_mem_blocks ‹_› ‹_›

end Stmt

namespace Block

/-- The statements of a block and those inside them that belong to the same scope. -/
def flat (b : Block) : List (Nat × Stmt) := b.flatMap (Stmt.flat 1)

/-- The names that a block binds or declares. -/
def boundNames (b : Block) : List String :=
  b.flat.flatMap fun s => s.2.ownTargets ++ s.2.exprs.flatMap Expr.assignedNames

/-- The names that a block declares to be global. -/
def globalNames (b : Block) : List String :=
  b.flat.flatMap fun s => match s.2 with
    | .global ns => ns
    | _ => []

/-- The names that a block declares to belong to a scope around it. -/
def nonlocalNames (b : Block) : List String :=
  b.flat.flatMap fun s => match s.2 with
    | .nonlocal ns => ns
    | _ => []

/-- The names that are local to a function with these parameters and this block. -/
def localNames (params : List String) (b : Block) : List String :=
  let declared := b.globalNames ++ b.nonlocalNames
  (params ++ b.boundNames).filter fun n => !declared.contains n

end Block

end Stencil.Script
