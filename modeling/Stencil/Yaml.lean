import Stencil.Json
import Stencil.Yaml.Scalar

/-!
# YAML

Reading small YAML documents into plain data: block mappings and block lists by indentation, flow lists
and flow mappings in brackets, plain and quoted scalars over one or more lines, and comments. Of two
entries with one key the later value counts. Anchors, tags, directives, explicit keys and block scalars
are not read.
-/

namespace Stencil.Yaml

/-- What is left of a document, with the place of its first character. -/
structure Cursor where
  rest : List Char
  column : Nat := 0
  line : Nat := 0
  deriving Inhabited

namespace Cursor

/-- The place after one character. -/
def next (c : Cursor) : Cursor :=
  match c.rest with
  | [] => c
  | '\n' :: rest => ⟨rest, 0, c.line + 1⟩
  | _ :: rest => ⟨rest, c.column + 1, c.line⟩

/-- The place after a number of characters. -/
def skip (c : Cursor) (n : Nat) : Cursor := n.repeat next c

end Cursor

/-- A character that separates tokens. -/
def isGap (c : Char) : Bool := c == ' ' || c == '\t' || c == '\n'

/-- Whether a gap or the end of the document comes next. -/
def atGap : List Char → Bool
  | [] => true
  | c :: _ => isGap c

/-- Whether one of some characters comes next. -/
def atOneOf (cs : List Char) : List Char → Bool
  | [] => false
  | c :: _ => cs.contains c

/-- The place after spaces, line ends and comments. -/
def gapEnd (comment : Bool) (column line : Nat) : List Char → Cursor
  | [] => ⟨[], column, line⟩
  | '\n' :: rest => gapEnd false 0 (line + 1) rest
  | c :: rest =>
    if comment || c == ' ' then gapEnd comment (column + 1) line rest
    else if c == '#' then gapEnd true (column + 1) line rest
    else ⟨c :: rest, column, line⟩

/-- The place of the next token. -/
def Cursor.token (c : Cursor) : Cursor := gapEnd false c.column c.line c.rest

/-- Whether a line of three hyphens or three dots comes next, which separates documents. -/
def atMarker : List Char → Bool
  | '-' :: '-' :: '-' :: rest => atGap rest
  | '.' :: '.' :: '.' :: rest => atGap rest
  | _ => false

/-- Whether a place is behind the last token of its document. -/
def Cursor.finished (c : Cursor) : Bool := c.rest.isEmpty || (c.column == 0 && atMarker c.rest)

/-- Whether a hyphen that begins an item of a block list comes next. -/
def atItem : List Char → Bool
  | '-' :: rest => atGap rest
  | _ => false

/-- The brackets and the comma of flow collections. -/
def flowMarks : List Char := [',', '[', ']', '\x7b', '\x7d']

/-- Whether a plain scalar ends here. -/
def plainEnds (flow : Bool) : List Char → Bool
  | [] => true
  | c :: rest =>
    isGap c || (c == ':' && (atGap rest || (flow && atOneOf flowMarks rest))) ||
      (flow && (c == '?' || flowMarks.contains c))

/-- Whether a plain scalar may begin here. -/
def plainBegins (flow : Bool) : List Char → Bool
  | [] => false
  | c :: rest =>
    !(isGap c || "-?:,[]\x7b\x7d#&*!|>'\"%@".toList.contains c || c.toNat == 96) ||
      (!atGap rest && (c == '-' || (!flow && (c == '?' || c == ':'))))

/-- A run of a plain scalar without gaps. -/
def plainRun (flow : Bool) : List Char → List Char
  | [] => []
  | c :: rest => if plainEnds flow (c :: rest) then [] else c :: plainRun flow rest

/-- What line ends fold to: one becomes a space, of several all but the first are kept. -/
def folded (breaks : Nat) : List Char :=
  if breaks = 1 then [' '] else List.replicate (breaks - 1) '\n'

/-- The place after spaces and line ends, stopping at a line that separates documents. -/
def blanksEnd (column line : Nat) : List Char → Cursor
  | ' ' :: rest => blanksEnd (column + 1) line rest
  | '\n' :: rest =>
    if atMarker rest then ⟨rest, 0, line + 1⟩ else blanksEnd 0 (line + 1) rest
  | rest => ⟨rest, column, line⟩

/-- A plain scalar: runs on one line with the spaces between them, and lines folded together. Lines after
the first one reach at least the column `floor`. -/
def plain (fuel : Nat) (flow : Bool) (floor : Nat) (c : Cursor) : List Char × Cursor :=
  match fuel with
  | 0 => ([], c)
  | fuel + 1 =>
    let run := plainRun flow c.rest
    let stop := c.skip run.length
    let more := blanksEnd stop.column stop.line stop.rest
    let spaces := stop.rest.take (more.column - stop.column)
    let between := if more.line = stop.line then spaces else folded (more.line - stop.line)
    if between.isEmpty || more.finished || atOneOf ['#'] more.rest || plainEnds flow more.rest ||
        (!flow && more.column < floor) then (run, stop)
    else
      let (tail, stop) := plain fuel flow floor more
      (run ++ between ++ tail, stop)

/-- What an escape of one letter stands for. -/
def escape? (c : Char) : Option Char :=
  match c with
  | '0' => some (Char.ofNat 0)
  | 'a' => some '\x07'
  | 'b' => some '\x08'
  | 't' => some '\t'
  | '\t' => some '\t'
  | 'n' => some '\n'
  | 'v' => some '\x0b'
  | 'f' => some '\x0c'
  | 'r' => some '\r'
  | 'e' => some '\x1b'
  | ' ' => some ' '
  | '"' => some '"'
  | '\\' => some '\\'
  | '/' => some '/'
  | 'N' => some (Char.ofNat 0x85)
  | '_' => some (Char.ofNat 0xA0)
  | 'L' => some (Char.ofNat 0x2028)
  | 'P' => some (Char.ofNat 0x2029)
  | _ => none

/-- How many hexadecimal digits follow the letter of an escape by number. -/
def escapeWidth? (c : Char) : Option Nat :=
  match c with
  | 'x' => some 2
  | 'u' => some 4
  | 'U' => some 8
  | _ => none

/-- The character with a number in hexadecimal digits. -/
def numbered? (width : Nat) (s : List Char) : Option Char :=
  let ds := s.take width
  if ds.length = width && ds.all (isDigitOf 16) then some (Char.ofNat (natOfDigits 16 ds)) else none

/-- The place after the blanks of a quoted scalar; none when they run into another document. -/
def quotedBlanksEnd (column line : Nat) : List Char → Option Cursor
  | '\n' :: rest => if atMarker rest then none else quotedBlanksEnd 0 (line + 1) rest
  | c :: rest =>
    if c == ' ' || c == '\t' then quotedBlanksEnd (column + 1) line rest
    else some ⟨c :: rest, column, line⟩
  | [] => some ⟨[], column, line⟩

/-- The text up to the closing mark, and the place after it. Inside single marks two of them stand for
one; inside double marks a backslash begins an escape. -/
def quoted (fuel : Nat) (mark : Char) (c : Cursor) : Option (List Char × Cursor) :=
  match fuel with
  | 0 => none
  | fuel + 1 =>
    let rest (text : List Char) (c : Cursor) : Option (List Char × Cursor) :=
      (quoted fuel mark c).map fun r => (text ++ r.1, r.2)
    match c.rest with
    | [] => none
    | ch :: tail =>
      if isGap ch then do
        let stop ← quotedBlanksEnd c.column c.line c.rest
        let breaks := stop.line - c.line
        rest (if breaks = 0 then c.rest.take (stop.column - c.column) else folded breaks) stop
      else if ch == mark then
        if mark == '\'' && atOneOf ['\''] tail then rest [mark] (c.skip 2) else some ([], c.next)
      else if ch == '\\' && mark == '"' then
        match tail with
        | '\n' :: _ => do
          let stop ← quotedBlanksEnd 0 (c.line + 1) (tail.drop 1)
          rest (List.replicate (stop.line - c.line - 1) '\n') stop
        | letter :: more =>
          match escape? letter, escapeWidth? letter with
          | some d, _ => rest [d] (c.skip 2)
          | none, some width => do rest [← numbered? width more] (c.skip (2 + width))
          | none, none => none
        | [] => none
      else rest [ch] c.next

/-- The scalar at a token, and the place after it. -/
def scalarAt? (flow : Bool) (floor : Nat) (c : Cursor) : Option (Datum × Cursor) :=
  let fuel := c.rest.length + 1
  match c.rest with
  | '"' :: _ => (quoted fuel '"' c.next).map fun r => (.str (String.ofList r.1), r.2)
  | '\'' :: _ => (quoted fuel '\'' c.next).map fun r => (.str (String.ofList r.1), r.2)
  | s =>
    if plainBegins flow s then
      let (text, stop) := plain fuel flow floor c
      (scalar? text).map fun d => (d, stop)
    else none

/-- Whether a value can be a key: no list and no mapping. -/
def isKey : Datum → Bool
  | .list _ | .dict _ => false
  | _ => true

/-- The key of a block mapping at a token, and the place after its colon. The key is a scalar on one
line, and a gap follows the colon. -/
def key? (floor : Nat) (c : Cursor) : Option (Datum × Cursor) := do
  let (key, stop) ← scalarAt? false floor c
  let colon := stop.skip (stop.rest.takeWhile (· == ' ')).length
  match colon.rest with
  | ':' :: rest => if stop.line = c.line && atGap rest then some (key, colon.next) else none
  | _ => none

mutual

/-- The flow collection or scalar at a token inside brackets. -/
def flowNode (fuel : Nat) (c : Cursor) : Option (Datum × Cursor) :=
  match fuel with
  | 0 => none
  | fuel + 1 =>
    match c.rest with
    | '[' :: _ => (flowItems fuel c.next).map fun r => (.list r.1, r.2)
    | '\x7b' :: _ => (flowEntries fuel [] c.next).map fun r => (.dict r.1, r.2)
    | _ => scalarAt? true 0 c

/-- A node inside brackets with the value after its colon, if there is one. The colon is on the line on
which the node begins. -/
def flowPair (fuel : Nat) (c : Cursor) : Option (Datum × Option Datum × Cursor) :=
  match fuel with
  | 0 => none
  | fuel + 1 => do
    let (node, stop) ← flowNode fuel c
    let colon := stop.token
    if atOneOf [':'] colon.rest then
      if colon.line != c.line || !isKey node then none
      else
        let t := colon.next.token
        if atOneOf [',', ']', '\x7d'] t.rest then some (node, some .none, t)
        else
          let (value, stop) ← flowNode fuel t
          some (node, some value, stop)
    else some (node, none, stop)

/-- The items up to the closing bracket. An item with a colon is a mapping of one entry. -/
def flowItems (fuel : Nat) (c : Cursor) : Option (List Datum × Cursor) :=
  match fuel with
  | 0 => none
  | fuel + 1 =>
    let t := c.token
    match t.rest with
    | ']' :: _ => some ([], t.next)
    | _ => do
      let (node, value, stop) ← flowPair fuel t
      let item := match value with
        | some v => .dict [(node, v)]
        | none => node
      let t := stop.token
      match t.rest with
      | ',' :: _ => (flowItems fuel t.next).map fun r => (item :: r.1, r.2)
      | ']' :: _ => some ([item], t.next)
      | _ => none

/-- The entries up to the closing brace. An entry without a colon has no value. -/
def flowEntries (fuel : Nat) (entries : List (Datum × Datum)) (c : Cursor) :
    Option (List (Datum × Datum) × Cursor) :=
  match fuel with
  | 0 => none
  | fuel + 1 =>
    let t := c.token
    match t.rest with
    | '\x7d' :: _ => some (entries, t.next)
    | _ => do
      let (node, value, stop) ← flowPair fuel t
      if !isKey node then none
      else
        let entries := Datum.insert entries node (value.getD .none)
        let t := stop.token
        match t.rest with
        | ',' :: _ => flowEntries fuel entries t.next
        | '\x7d' :: _ => some (entries, t.next)
        | _ => none

end

/-- The node at a token on the line of what it belongs to: a flow collection or a scalar. -/
def inlineNode (fuel floor : Nat) (c : Cursor) : Option (Datum × Cursor) :=
  if atOneOf ['[', '\x7b'] c.rest then flowNode fuel c else scalarAt? false floor c

/-- What follows an entry of a block collection: the next entry in its column, or its end. -/
inductive Continuation where
  | another (c : Cursor)
  | over

/-- What follows an entry that ends at a place. Something else on its line, or to the right of the
column on another line, is an error. -/
def continuation? (column : Nat) (stop : Cursor) : Option Continuation :=
  let t := stop.token
  if t.finished then some .over
  else if t.line = stop.line || t.column > column then none
  else if t.column = column then some (.another t)
  else some .over

mutual

/-- The node at a token that may be a block list or a block mapping. -/
def blockNode (fuel floor : Nat) (c : Cursor) : Option (Datum × Cursor) :=
  match fuel with
  | 0 => none
  | fuel + 1 =>
    if atItem c.rest then (blockItems fuel c.column c).map fun r => (.list r.1, r.2)
    else if (key? floor c).isSome then
      (blockEntries fuel c.column [] c).map fun r => (.dict r.1, r.2)
    else inlineNode fuel floor c

/-- The node below an entry of a block collection, or after its mark. Without one there is nothing. -/
def blockItem (fuel column : Nat) (mark : Cursor) : Option (Datum × Cursor) :=
  match fuel with
  | 0 => none
  | fuel + 1 =>
    let t := mark.token
    if !t.finished && (t.line = mark.line || t.column > column) then blockNode fuel (column + 1) t
    else some (.none, mark)

/-- The items of a block list in a column. -/
def blockItems (fuel column : Nat) (c : Cursor) : Option (List Datum × Cursor) :=
  match fuel with
  | 0 => none
  | fuel + 1 => do
    let (item, stop) ← blockItem fuel column c.next
    match ← continuation? column stop with
    | .over => some ([item], stop)
    | .another t =>
      if atItem t.rest then (blockItems fuel column t).map fun r => (item :: r.1, r.2)
      else some ([item], stop)

/-- The value of an entry of a block mapping: on the line of its key a scalar or a flow collection, below
it any node further to the right, or a block list in the same column. -/
def blockValue (fuel column : Nat) (mark : Cursor) : Option (Datum × Cursor) :=
  match fuel with
  | 0 => none
  | fuel + 1 =>
    let t := mark.token
    if !t.finished && t.line = mark.line then inlineNode fuel (column + 1) t
    else if !t.finished && t.column = column && atItem t.rest then
      (blockItems fuel column t).map fun r => (.list r.1, r.2)
    else blockItem fuel column mark

/-- The entries of a block mapping in a column. -/
def blockEntries (fuel column : Nat) (entries : List (Datum × Datum)) (c : Cursor) :
    Option (List (Datum × Datum) × Cursor) :=
  match fuel with
  | 0 => none
  | fuel + 1 => do
    let (key, mark) ← key? (column + 1) c
    let (value, stop) ← blockValue fuel column mark
    let entries := Datum.insert entries key value
    match ← continuation? column stop with
    | .over => some (entries, stop)
    | .another t => blockEntries fuel column entries t

end

/-- A character that documents may hold. -/
def isDocumentChar (c : Char) : Bool :=
  let n := c.toNat
  n == 9 || n == 10 || n == 13 || n == 0x85 || (32 ≤ n && n < 127) ||
    (0xA0 ≤ n && n != 0xFFFE && n != 0xFFFF)

/-- Whether nothing follows the document that ends here, apart from a line of three dots. -/
def documentEnds (c : Cursor) : Bool :=
  let t := c.token
  t.rest.isEmpty || (t.finished && atOneOf ['.'] t.rest && (t.skip 3).token.rest.isEmpty)

/-- The node of a document, which may begin with a line of three hyphens. On that line there is room for
a scalar or a flow collection only. -/
def rootNode (fuel : Nat) (c : Cursor) : Option (Datum × Cursor) :=
  let t := c.token
  let marked := t.column = 0 && atMarker t.rest && atOneOf ['-'] t.rest
  let start := if marked then t.skip 3 else t
  let t := start.token
  if t.finished then some (.none, start)
  else if marked && t.line = start.line then inlineNode fuel 0 t
  else blockNode fuel 0 t

/-- The value of a document; an empty one stands for nothing. A mark of the byte order at its beginning
is left out. -/
def read? (s : String) : Option Datum := do
  let cs := if s.toList.head? == some (Char.ofNat 0xFEFF) then s.toList.drop 1 else s.toList
  if !cs.all isDocumentChar then none
  else
    let (value, stop) ← rootNode (4 * cs.length + 4) ⟨cs, 0, 0⟩
    if documentEnds stop then some value else none

end Stencil.Yaml
