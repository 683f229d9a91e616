import Stencil.Fault
import Stencil.Listing
import Stencil.Script.Statement
import Stencil.Script.Validity

/-!
# Templates

A template that is ready to run: its program, the listing and the script that the listing reads as, and
the expressions whose values are written last. A template that cannot be made ready names the segment
at fault.
-/

namespace Stencil

/-- A template that is ready to run. -/
structure Template where
  name : String
  program : Program
  listing : Listing
  /-- The statements of the listing. -/
  script : Script.Block
  /-- The deferred expressions by the index of their segment. -/
  deferred : List (Nat × Script.Expr)
  deriving Inhabited

/-- Why a template cannot be made ready. -/
inductive CompileError where
  /-- A directive without a meaning. -/
  | unknownIndicator (e : UnknownIndicator)
  /-- Directives that do not fit together. -/
  | layout (e : LayoutError)
  /-- The code of a segment does not read as a script. -/
  | code (segment : Segment)
  /-- The code holds the character that ends a text in memory. -/
  | nullCharacter

namespace CompileError

/-- What is reported of code that does not read. -/
def unreadable : String := "SyntaxError"

/-- The fault that is reported; a null character is none. -/
def fault? (name : String) : CompileError → Option Fault
  | unknownIndicator e =>
    some (Fault.directiveSyntax e.indicator e.directive { template := some name, line := some e.line })
  | layout e =>
    some (Fault.codeSyntax e.reason e.code { template := some name, line := some e.segment.line })
  | code s => some (Fault.codeSyntax unreadable s.code { template := some name, line := some s.line })
  | nullCharacter => none

/-- What is reported of a null character. -/
def nullMessage : String := "source code string cannot contain null bytes"

end CompileError

namespace Template

/-- A segment that stands for the whole of an empty program. -/
def emptySegment : Segment := { kind := .literal, code := "", line := 1 }

/-- The segment that a line of the listing came from. Without a line, or in an empty listing, it is the
last one. -/
def segmentAt (segments : List Segment) (l : Listing) (line : Option Int) : Segment :=
  match line with
  | some n =>
    match l.segmentIndexAt n with
    | some i => segments[i]?.getD emptySegment
    | none => segments.getLast?.getD emptySegment
  | none => segments.getLast?.getD emptySegment

/-- The script of a listing. -/
def readListing (p : Program) (l : Listing) : Except CompileError Script.Block :=
  let blame (line : Nat) : CompileError := .code (segmentAt p.segments l (some line))
  if l.source.contains '\x00' then .error .nullCharacter
  else
    match Script.readScript l.source with
    | .error line => .error (blame line)
    | .ok b =>
      match Script.Validity.invalidLine? b with
      | some line => .error (blame line)
      | none => .ok b

/-- The expression of a deferred directive, which stands in parentheses of its own. -/
def readDeferred (s : Segment) : Except CompileError Script.Expr :=
  let source := '(' :: ((Text.strip s.code).toList ++ ['\n', ')'])
  if source.contains '\x00' then .error .nullCharacter
  else
    match Script.readExpression source with
    | .error _ => .error (.code s)
    | .ok e => if (Script.Validity.invalidExpressionLine? e).isSome then .error (.code s) else .ok e

/-- The deferred expressions of the segments from an index on. -/
def readDeferredFrom (index : Nat) : List Segment → Except CompileError (List (Nat × Script.Expr))
  | [] => .ok []
  | s :: rest =>
    if s.kind = .deferred then do
      let e ← readDeferred s
      return (index, e) :: (← readDeferredFrom (index + 1) rest)
    else readDeferredFrom (index + 1) rest

/-- Make a template ready. -/
def compile (name source : String) : Except CompileError Template := do
  let program ← (Program.parse name source).mapError .unknownIndicator
  let listing ← (Listing.ofProgram program).mapError .layout
  let script ← readListing program listing
  let deferred ← readDeferredFrom 0 program.segments
  return { name, program, listing, script, deferred }

/-- The notation of a template. -/
def repr (t : Template) : String := "<Template " ++ Text.quoted t.name ++ ">"

end Template

end Stencil
