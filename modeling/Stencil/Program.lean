import Stencil.Directive.Kind
import Stencil.Text.Lines

/-!
# Programs

A program is the sequence of segments of a template, each with the source line on which it ends. The
literal segments hold all text outside directives; a directive without a meaning stops the parse.
-/

namespace Stencil

/-- One unit of a program. -/
structure Segment where
  kind : SegmentKind
  /-- The literal text, or the code of a directive. -/
  code : String
  /-- The source line, counted from one, on which the segment ends. -/
  line : Nat
  /-- The indicator of a directive; absent for literal text. -/
  indicator : Option String := none
  deriving DecidableEq, Inhabited, Repr

/-- The segment as it is written in a template, without a closing dash. -/
def Segment.directive (s : Segment) : String :=
  if s.kind = .literal then s.code
  else "<%" ++ s.indicator.getD "" ++ s.code ++ "%>"

/-- The segments of a template in order, with the number of its lines. -/
structure Program where
  name : String
  segments : List Segment
  lines : Nat
  deriving DecidableEq, Inhabited, Repr

/-- The template with every directive removed. -/
def Program.literalText (p : Program) : String :=
  String.join ((p.segments.filter (·.kind = .literal)).map (·.code))

/-- A directive whose indicator has no meaning. -/
structure UnknownIndicator where
  indicator : String
  directive : String
  line : Nat
  deriving DecidableEq, Repr

namespace Program

/-- The literal segment of a text that ends on the given line; none for the empty text. -/
def literalSegment (text : String) (line : Nat) : List Segment :=
  if text = "" then [] else [{ kind := .literal, code := text, line := line }]

/-- The segments of the tokens that follow line `line`, with the last line reached. -/
def segmentsFrom (line : Nat) : List Token → Except UnknownIndicator (List Segment × Nat)
  | [] => .ok ([], line)
  | t :: ts =>
    let textLine := line + Text.occurrences '\n' t.text
    let codeLine := textLine + Text.occurrences '\n' t.code
    match t.indicator with
    | none => do
      let (rest, last) ← segmentsFrom codeLine ts
      return (literalSegment t.text textLine ++ rest, last)
    | some i =>
      let segment : Segment :=
        { kind := Directive.classify (some i), code := t.code, line := codeLine, indicator := some i }
      if segment.kind = .error then .error ⟨i, segment.directive, codeLine⟩
      else do
        let (rest, last) ← segmentsFrom codeLine ts
        return (literalSegment t.text textLine ++ segment :: rest, last)

/-- The program of a list of tokens. -/
def ofTokens (name : String) (tokens : List Token) : Except UnknownIndicator Program := do
  let (segments, lines) ← segmentsFrom 1 tokens
  return { name, segments, lines }

/-- The program of a template. -/
def parse (name source : String) : Except UnknownIndicator Program := ofTokens name (tokenize source)

end Program

end Stencil
