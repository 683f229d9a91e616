import Stencil.Directive.Token

/-!
# Kinds of segments

What a token's indicator makes of it. A run of equals signs of any length interpolates; an indicator
without a meaning is an error that the program reports.
-/

namespace Stencil

/-- What a segment of a template does. -/
inductive SegmentKind where
  /-- Text that is written as it is. -/
  | literal
  /-- Code that is run. -/
  | statement
  /-- An expression whose value is written. -/
  | interpolation
  /-- An expression whose value is written once the whole output is known. -/
  | deferred
  /-- Text that is dropped. -/
  | comment
  /-- A directive without a meaning. -/
  | error
  deriving DecidableEq, Inhabited, Repr

/-- The name of a kind. -/
def SegmentKind.name : SegmentKind → String
  | .literal => "literal"
  | .statement => "statement"
  | .interpolation => "interpolation"
  | .deferred => "deferred"
  | .comment => "comment"
  | .error => "error"

namespace Directive

/-- A run of equals signs. -/
def isEqualsRun : List Char → Bool
  | [] => false
  | cs => cs.all (· == '=')

/-- Whether a directive with this indicator interpolates. -/
def isInterpolation : Option String → Bool
  | none => false
  | some i => isEqualsRun i.toList

/-- The kind of a directive with this indicator. -/
def classify : Option String → SegmentKind
  | none => .comment
  | some "#" => .comment
  | some "" => .statement
  | some "->" => .deferred
  | some i => if isEqualsRun i.toList then .interpolation else .error

end Directive

end Stencil
