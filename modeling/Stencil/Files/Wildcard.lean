import Stencil.Files

/-!
# Patterns of paths

Patterns that name several files at once. In each segment of a path `*` stands for any text, `?` for any
character, and `[..]` for a character of a class. A segment that does not begin with a dot leaves out
the names that do. A pattern without such marks names one path.
-/

namespace Stencil

/-- A part of a pattern for names. -/
inductive Wildcard where
  | exactly (c : Char)
  | anyChar
  | anyText
  /-- A character between two bounds, or one that is between none of them. -/
  | oneOf (negated : Bool) (bounds : List (Char × Char))
  deriving DecidableEq, Inhabited, Repr

namespace Wildcard

/-- Whether a part stands for a character. -/
def accepts : Wildcard → Char → Bool
  | exactly d, c => c == d
  | anyChar, _ => true
  | anyText, _ => true
  | oneOf negated bounds, c => bounds.any (fun b => b.1 ≤ c && c ≤ b.2) != negated

/-- Whether a pattern stands for a whole name. -/
def matchesName (pattern : List Wildcard) (name : List Char) : Bool :=
  match pattern, name with
  | [], [] => true
  | [], _ :: _ => false
  | .anyText :: rest, [] => matchesName rest []
  | .anyText :: rest, c :: cs => matchesName rest (c :: cs) || matchesName (.anyText :: rest) cs
  | _ :: _, [] => false
  | w :: rest, c :: cs => w.accepts c && matchesName rest cs
termination_by pattern.length + name.length

/-- The bounds that the inside of a class writes: single characters, and two of them around a hyphen. -/
def boundsOf : List Char → List (Char × Char)
  | a :: '-' :: b :: rest => (a, b) :: boundsOf rest
  | a :: rest => (a, a) :: boundsOf rest
  | [] => []

/-- The inside of a class up to its bracket, and what follows. A bracket in the first place is a member. -/
def classOf? (s : List Char) : Option (List Char × List Char) :=
  let first := if s.head? == some ']' then 1 else 0
  let inside := s.take first ++ (s.drop first).takeWhile (· != ']')
  match s.drop inside.length with
  | _ :: rest => some (inside, rest)
  | [] => none

/-- The class after an opening bracket, and what follows; none when it is not closed. -/
def readClass? (s : List Char) : Option (Wildcard × List Char) :=
  match s with
  | '!' :: rest => (classOf? rest).map fun r => (.oneOf true (boundsOf r.1), r.2)
  | _ => (classOf? s).map fun r => (.oneOf false (boundsOf r.1), r.2)

/-- The parts of a pattern. A bracket that is not closed stands for itself. -/
def readFrom (fuel : Nat) (s : List Char) : List Wildcard :=
  match fuel, s with
  | 0, _ => []
  | _, [] => []
  | fuel + 1, '*' :: rest => .anyText :: readFrom fuel rest
  | fuel + 1, '?' :: rest => .anyChar :: readFrom fuel rest
  | fuel + 1, '[' :: rest =>
    match readClass? rest with
    | some (w, after) => w :: readFrom fuel after
    | none => .exactly '[' :: readFrom fuel rest
  | fuel + 1, c :: rest => .exactly c :: readFrom fuel rest

/-- The parts of a pattern for names. -/
def read (s : String) : List Wildcard := readFrom s.length s.toList

/-- Whether a segment of a pattern has marks. -/
def isMarked (segment : String) : Bool := segment.toList.any fun c => c == '*' || c == '?' || c == '['

/-- Whether a segment of a pattern stands for a name. -/
def selects (segment name : String) : Bool :=
  (segment.startsWith "." || !name.startsWith ".") && matchesName (read segment) name.toList

end Wildcard

namespace Files

/-- The paths from a directory that the segments of a pattern lead to, whether they exist or not. -/
def expand (t : Files) (here : FilePath) : List String → List FilePath
  | [] => [here]
  | segment :: rest =>
    if Wildcard.isMarked segment then
      ((t.names here).filter (Wildcard.selects segment)).flatMap fun n => t.expand (here ++ [n]) rest
    else t.expand (here ++ [segment]) rest

/-- Whether a path leads to a directory. -/
def hasDirectory (t : Files) (p : FilePath) : Bool := ((t.follow [] p).map t.isDirectory).getD false

/-- What ends a pattern that names directories only. -/
def directoryMark (pattern : String) : String :=
  if pattern.endsWith "/" then "/" else if pattern.endsWith "/." then "/." else ""

/-- How a path that a pattern names is written. -/
def written (pattern : String) (p : FilePath) : String := p.text ++ directoryMark pattern

/-- The paths that a pattern names, in the order of how they are written. -/
def matching (t : Files) (pattern : String) : List FilePath :=
  if pattern == "" || pattern.startsWith "/" then []
  else
    let there := if directoryMark pattern == "" then t.exists? else t.hasDirectory
    ((t.expand [] (FilePath.ofText pattern)).filter there).mergeSort fun p q =>
      !(written pattern q < written pattern p)

end Files

end Stencil
