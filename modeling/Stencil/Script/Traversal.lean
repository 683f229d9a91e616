import Stencil.Script.Syntax

/-!
# Parts of expressions and statements

The expressions that an expression contains directly, and the blocks and expressions that a statement
contains directly. A part is smaller than the whole, so functions may recurse on the parts.
-/

namespace Stencil.Script

namespace Argument

variable {ε : Type}

/-- The expression of an argument. -/
def expr : Argument ε → ε
  | .positional e => e
  | .spread e => e
  | .named _ e => e
  | .spreadNamed e => e

end Argument

namespace Entry

variable {ε : Type}

/-- The expressions of an entry. -/
def exprs : Entry ε → List ε
  | .pair k v => [k, v]
  | .spread e => [e]

end Entry

namespace TextPart

variable {ε : Type}

/-- The expressions of a piece of a formatted text. -/
def exprs : TextPart ε → List ε
  | .text _ => []
  | .value e _ format => e :: format.toList

end TextPart

/-- The expressions of a clause. -/
def Clause.exprs {ε : Type} (c : Clause ε) : List ε := c.target :: c.source :: c.conditions

/-- The expressions that a parameter holds. -/
def Parameter.exprs {ε : Type} (p : Parameter ε) : List ε := p.annotation.toList ++ p.fallback.toList

namespace Expr

/-- The expressions that an expression contains directly, in the order in which they are written. -/
def children : Expr → List Expr
  | .constant _ => []
  | .name _ => []
  | .list items => items
  | .tuple items => items
  | .set items => items
  | .dict entries => entries.flatMap Entry.exprs
  | .star e => [e]
  | .attribute e _ => [e]
  | .subscript e i => [e, i]
  | .slice a b c => a.toList ++ b.toList ++ c.toList
  | .call f args => f :: args.map Argument.expr
  | .unary _ e => [e]
  | .binary _ a b => [a, b]
  | .compare first rest => first :: rest.map (·.2)
  | .conjunction items => items
  | .disjunction items => items
  | .conditional test yes no => [test, yes, no]
  | .lambda params body => params.flatMap Parameter.exprs ++ [body]
  | .assign _ v => [v]
  | .comprehension _ item clauses => item :: clauses.flatMap Clause.exprs
  | .dictComprehension k v clauses => k :: v :: clauses.flatMap Clause.exprs
  | .formatted parts => parts.flatMap TextPart.exprs
  | .await e => [e]
  | .yield e => e.toList
  | .yieldFrom e => [e]
  | .at _ e => [e]

theorem sizeOf_exprs_of_entry {x : Expr} {d : Entry Expr} (h : x ∈ d.exprs) : sizeOf x < sizeOf d := by
  cases d <;> simp only [Entry.exprs, List.mem_cons, List.not_mem_nil, or_false] at h
  · rcases h with rfl | rfl <;> simp only [Entry.pair.sizeOf_spec] <;> omega
  · subst h
    simp only [Entry.spread.sizeOf_spec]
    omega

theorem sizeOf_exprs_of_part {x : Expr} {p : TextPart Expr} (h : x ∈ p.exprs) :
    sizeOf x < sizeOf p := by
  cases p with
  | text s => exact absurd h List.not_mem_nil
  | value e c f =>
    simp only [TextPart.exprs, List.mem_cons, Option.mem_toList] at h
    simp only [TextPart.value.sizeOf_spec]
    rcases h with rfl | h
    · omega
    · subst h
      simp only [Option.some.sizeOf_spec]
      omega

theorem sizeOf_exprs_of_clause {x : Expr} {c : Clause Expr} (h : x ∈ c.exprs) :
    sizeOf x < sizeOf c := by
  cases c with
  | mk t s cs a =>
    simp only [Clause.exprs, List.mem_cons] at h
    simp only [Clause.mk.sizeOf_spec]
    rcases h with rfl | rfl | h
    · omega
    · omega
    · have := List.sizeOf_lt_of_mem h
      omega

theorem sizeOf_exprs_of_parameter {x : Expr} {p : Parameter Expr} (h : x ∈ p.exprs) :
    sizeOf x < sizeOf p := by
  cases p with
  | mk n k a f =>
    simp only [Parameter.exprs, List.mem_append, Option.mem_toList] at h
    simp only [Parameter.mk.sizeOf_spec]
    rcases h with h | h <;> subst h <;> simp only [Option.some.sizeOf_spec] <;> omega

theorem sizeOf_expr_of_argument (a : Argument Expr) : sizeOf a.expr < sizeOf a := by
  cases a <;> simp only [Argument.expr, Argument.positional.sizeOf_spec, Argument.spread.sizeOf_spec,
    Argument.named.sizeOf_spec, Argument.spreadNamed.sizeOf_spec] <;> omega

/-- An expression inside another one is smaller. -/
theorem sizeOf_lt_of_mem_children {x e : Expr} (h : x ∈ e.children) : sizeOf x < sizeOf e := by
  cases e <;> simp only [children, List.mem_cons, List.mem_append, List.mem_map, List.mem_flatMap,
    Option.mem_toList, List.not_mem_nil, or_false] at h
  case list | tuple | set | conjunction | disjunction =>
    have := List.sizeOf_lt_of_mem h
    simp only [list.sizeOf_spec, tuple.sizeOf_spec, set.sizeOf_spec, conjunction.sizeOf_spec,
      disjunction.sizeOf_spec]
    omega
  case dict =>
    obtain ⟨d, hd, hx⟩ := h
    have := List.sizeOf_lt_of_mem hd
    have := sizeOf_exprs_of_entry hx
    simp only [dict.sizeOf_spec]
    omega
  case formatted =>
    obtain ⟨d, hd, hx⟩ := h
    have := List.sizeOf_lt_of_mem hd
    have := sizeOf_exprs_of_part hx
    simp only [formatted.sizeOf_spec]
    omega
  case star | await | yieldFrom | «attribute» | unary | assign | «at» =>
    subst h
    simp only [star.sizeOf_spec, await.sizeOf_spec, yieldFrom.sizeOf_spec, «attribute».sizeOf_spec,
      unary.sizeOf_spec, assign.sizeOf_spec, «at».sizeOf_spec]
    omega
  case subscript | binary =>
    rcases h with rfl | rfl <;> simp only [subscript.sizeOf_spec, binary.sizeOf_spec] <;> omega
  case conditional =>
    rcases h with rfl | rfl | rfl <;> simp only [conditional.sizeOf_spec] <;> omega
  case slice =>
    rcases h with (h | h) | h <;> subst h <;>
      simp only [slice.sizeOf_spec, Option.some.sizeOf_spec] <;> omega
  case yield =>
    subst h
    simp only [yield.sizeOf_spec, Option.some.sizeOf_spec]
    omega
  case call =>
    simp only [call.sizeOf_spec]
    rcases h with rfl | ⟨a, ha, rfl⟩
    · omega
    · have := List.sizeOf_lt_of_mem ha
      have := sizeOf_expr_of_argument a
      omega
  case compare =>
    simp only [compare.sizeOf_spec]
    rcases h with rfl | ⟨⟨op, e⟩, ha, rfl⟩
    · omega
    · have := List.sizeOf_lt_of_mem ha
      simp only [Prod.mk.sizeOf_spec] at this
      change sizeOf e < _
      omega
  case lambda =>
    simp only [lambda.sizeOf_spec]
    rcases h with ⟨p, hp, hx⟩ | rfl
    · have := List.sizeOf_lt_of_mem hp
      have := sizeOf_exprs_of_parameter hx
      omega
    · omega
  case comprehension =>
    simp only [comprehension.sizeOf_spec]
    rcases h with rfl | ⟨c, hc, hx⟩
    · omega
    · have := List.sizeOf_lt_of_mem hc
      have := sizeOf_exprs_of_clause hx
      omega
  case dictComprehension =>
    simp only [dictComprehension.sizeOf_spec]
    rcases h with rfl | rfl | ⟨c, hc, hx⟩
    · omega
    · omega
    · have := List.sizeOf_lt_of_mem hc
      have := sizeOf_exprs_of_clause hx
      omega

end Expr

namespace Stmt

/-- The blocks that a statement contains directly. -/
def blocks : Stmt → List Block
  | .if _ a b => [a, b]
  | .while _ a b => [a, b]
  | .for _ _ a b _ => [a, b]
  | .try a handlers b c _ => a :: handlers.map (·.body) ++ [b, c]
  | .with _ a _ => [a]
  | .function _ _ _ _ a _ => [a]
  | .klass _ _ _ a => [a]
  | .match _ cases => cases.map (·.body)
  | .at _ s => [[s]]
  | _ => []

/-- A statement inside another one is smaller. -/
theorem sizeOf_lt_of_mem_blocks {x s : Stmt} {b : Block} (hb : b ∈ s.blocks) (hx : x ∈ b) :
    sizeOf x < sizeOf s := by
  have hx' := List.sizeOf_lt_of_mem hx
  cases s <;> simp only [blocks, List.mem_cons, List.mem_append, List.mem_map, List.cons_append,
    List.not_mem_nil, or_false] at hb
  case «if» | «while» | «for» =>
    rcases hb with rfl | rfl <;>
      simp only [«if».sizeOf_spec, «while».sizeOf_spec, «for».sizeOf_spec] <;> omega
  case «try» =>
    simp only [«try».sizeOf_spec]
    rcases hb with rfl | ⟨⟨l, t, n, c⟩, hh, rfl⟩ | rfl | rfl
    · omega
    · have hsize := List.sizeOf_lt_of_mem hh
      simp only [Handler.mk.sizeOf_spec] at hsize
      have : sizeOf x < sizeOf c := hx'
      omega
    · omega
    · omega
  case «with» | function | klass =>
    subst hb
    simp only [«with».sizeOf_spec, function.sizeOf_spec, klass.sizeOf_spec]
    omega
  case «match» =>
    obtain ⟨⟨p, g, c⟩, hh, rfl⟩ := hb
    have hsize := List.sizeOf_lt_of_mem hh
    simp only [Case.mk.sizeOf_spec] at hsize
    have : sizeOf x < sizeOf c := hx'
    simp only [«match».sizeOf_spec]
    omega
  case «at» =>
    subst hb
    simp only [List.mem_singleton] at hx
    subst hx
    simp only [«at».sizeOf_spec]
    omega

end Stmt

end Stencil.Script
