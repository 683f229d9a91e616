import Stencil.Listing.Opening
import Stencil.Program
import Stencil.Text.Quoted

/-!
# Listings

The code that a program runs as. Literal text and interpolations become calls that write, a deferred
expression becomes a call that reserves its place, and statements are taken over with the indentation
of the blocks around them. A statement that ends in a colon opens a block, which lasts to its `end`;
`elif`, `else`, `except` and `finally` close the current block before they open their own. Each line of
the listing knows the segment it came from.
-/

namespace Stencil

/-- A line of a listing with the index of its segment. -/
structure ListingLine where
  text : List Char
  segment : Nat
  deriving DecidableEq, Inhabited, Repr

/-- A block that is not closed yet: the segment that opened it and the indentation inside it. -/
structure OpenBlock where
  opener : Segment
  indent : List Char
  deriving DecidableEq, Repr

/-- What is wrong with the directives of a program. -/
inductive LayoutError where
  /-- An expression directive without an expression. -/
  | emptyExpression (segment : Segment)
  /-- A closing or continuing directive outside any block. -/
  | noOpenBlock (segment : Segment)
  /-- A block that lasts to the end of the template. -/
  | neverClosed (opener : Segment)
  deriving DecidableEq, Repr

namespace LayoutError

/-- The segment at fault. -/
def segment : LayoutError → Segment
  | emptyExpression s => s
  | noOpenBlock s => s
  | neverClosed s => s

/-- What is reported about the segment. -/
def reason : LayoutError → String
  | emptyExpression _ => "empty expression"
  | noOpenBlock s =>
    "'" ++ String.ofList (Text.firstWord s.code.toList) ++ "' without an open block"
  | neverClosed _ => "block is never closed with 'end'"

/-- The code that is reported: the whole directive when it holds no code. -/
def code : LayoutError → String
  | emptyExpression s => s.directive
  | noOpenBlock s => s.code
  | neverClosed s => s.code

end LayoutError

/-- A listing under construction. -/
structure Listing where
  lines : List ListingLine := []
  /-- The blocks that are open, the innermost first. -/
  blocks : List OpenBlock := []
  deriving Inhabited, Repr

namespace Listing

/-- The indentation of one block. -/
def step : List Char := [' ', ' ', ' ', ' ']

/-- The indentation in force. -/
def indent (l : Listing) : List Char := (l.blocks.head?.map (·.indent)).getD []

/-- A line at the indentation in force; an empty line stays empty. -/
def addLine (l : Listing) (index : Nat) (text : List Char) : Listing :=
  let indented := if text.isEmpty then [] else l.indent ++ text
  { l with lines := l.lines ++ [⟨indented, index⟩] }

/-- A line exactly as it stands. -/
def addVerbatim (l : Listing) (index : Nat) (text : List Char) : Listing :=
  { l with lines := l.lines ++ [⟨text, index⟩] }

/-- The lines of an expression, without the line feeds at its ends. -/
def expressionLines (code : String) : List (List Char) :=
  Text.lines (Text.trim (· == '\n') code.toList)

/-- The lines of a statement, without their common margin and what is blank at the end. -/
def statementLines (code : String) : List (List Char) :=
  let body := Text.dedent (expressionLines code)
  Text.lines (Text.trimEnd Text.isBlank (Text.joinWith ['\n'] body))

/-- The role of a statement directive in the block structure. -/
inductive Role where
  | closer
  | continuation
  | plain
  deriving DecidableEq, Repr

/-- `end` by itself, possibly with a comment. -/
def isEnd (line : List Char) : Bool :=
  match line with
  | 'e' :: 'n' :: 'd' :: rest =>
    match rest.dropWhile Text.isBlank with
    | [] => true
    | c :: _ => c == '#'
  | _ => false

/-- The words that continue a block. -/
def continuationWords : List (List Char) :=
  ["elif".toList, "else".toList, "except".toList, "finally".toList]

/-- A line whose first word continues a block. -/
def isContinuation (line : List Char) : Bool :=
  continuationWords.any fun w =>
    w.isPrefixOf line && !((line.drop w.length).head?.map Text.isWord).getD false

/-- The role of the statement with these lines, read off the first of them. -/
def role (ls : List (List Char)) : Role :=
  let first := Text.trim Text.isBlank (ls.headD [])
  if isEnd first && ls.length == 1 then .closer
  else if isContinuation first then .continuation
  else .plain

/-- The last line that is not blank. -/
def lastLine (ls : List (List Char)) : List Char :=
  ((ls.filter fun l => !Text.isBlankText l).getLast?).getD []

/-- Leave the innermost block. -/
def closeBlock (l : Listing) (s : Segment) : Except LayoutError Listing :=
  match l.blocks with
  | [] => .error (.noOpenBlock s)
  | _ :: outer => .ok { l with blocks := outer }

/-- Take over the lines of a statement and open a block when the last of them asks for one. -/
def addLines (l : Listing) (index : Nat) (s : Segment) (ls : List (List Char)) : Listing :=
  let l' := ls.foldl (fun acc line => acc.addLine index (Text.trimEnd Text.isBlank line)) l
  let last := lastLine ls
  if !last.isEmpty && Opening.opensBlock last then
    let inner := l'.indent ++ Text.leadingBlanks last ++ step
    { l' with blocks := ⟨s, inner⟩ :: l'.blocks }.addLine index "pass".toList
  else l'

/-- Add a statement directive. -/
def addStatement (l : Listing) (index : Nat) (s : Segment) : Except LayoutError Listing :=
  let ls := statementLines s.code
  match role ls with
  | .closer => l.closeBlock s
  | .continuation => (l.closeBlock s).map fun l' => l'.addLines index s ls
  | .plain => .ok (l.addLines index s ls)

/-- Add an interpolation: its expression stands on lines of its own inside the call that writes it. -/
def addInterpolation (l : Listing) (index : Nat) (s : Segment) : Listing :=
  let l' := l.addLine index "_tpl_emit((".toList
  let l'' := (expressionLines s.code).foldl (fun acc line => acc.addVerbatim index line) l'
  l''.addLine index "))".toList

/-- Add one segment of a program. -/
def addSegment (l : Listing) (index : Nat) (s : Segment) : Except LayoutError Listing :=
  let blank := Text.isBlankText s.code.toList
  match s.kind with
  | .literal =>
    .ok (l.addLine index ("_tpl_write(".toList ++ Text.Quoted.encode s.code.toList ++ [')']))
  | .statement => l.addStatement index s
  | .interpolation => if blank then .error (.emptyExpression s) else .ok (l.addInterpolation index s)
  | .deferred =>
    if blank then .error (.emptyExpression s)
    else .ok (l.addLine index ("_tpl_defer(".toList ++ (Text.natText index).toList ++ [')']))
  | .comment => .ok l
  | .error => .ok l

/-- Add the segments in order, numbered from `index`. -/
def addSegments (l : Listing) (index : Nat) : List Segment → Except LayoutError Listing
  | [] => .ok l
  | s :: rest => do (← l.addSegment index s).addSegments (index + 1) rest

/-- The listing of a program. -/
def ofProgram (p : Program) : Except LayoutError Listing := do
  let l ← addSegments {} 0 p.segments
  match l.blocks with
  | [] => return l
  | block :: _ => throw (.neverClosed block.opener)

/-- The text of a listing: its lines, each ended by a line feed. -/
def source (l : Listing) : List Char :=
  Text.joinWith ['\n'] (l.lines.map (·.text)) ++ ['\n']

/-- The segment of each line. -/
def lineMap (l : Listing) : List Nat := l.lines.map (·.segment)

/-- The index of the segment that the line with this number, counted from one, came from; a number out
of range counts as the nearest line. -/
def segmentIndexAt (l : Listing) (line : Int) : Option Nat :=
  l.lineMap[(min (max line 1) l.lineMap.length).toNat - 1]?

end Listing

end Stencil
