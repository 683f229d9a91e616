import Stencil.Script.Syntax
import Stencil.Script.Token

/-!
# Readings

A reading takes a value off the tokens of a script or fails. It moves a cursor; when an alternative
fails, the next one starts where it did, but the cursor remembers the furthest token that was looked at,
because that token is the one to blame when the whole reading fails.
-/

namespace Stencil.Script

/-- Where a reading stands. -/
structure Cursor where
  /-- The index of the next token. -/
  position : Nat := 0
  /-- The furthest index that was looked at. -/
  furthest : Nat := 0
  /-- The line of the statement that is being read. -/
  line : Nat := 0
  /-- The first token of the expression that was read last, and the token after it. -/
  recent : Nat × Nat := (0, 0)
  deriving Inhabited, Repr

/-- A reading of tokens. -/
def Reading (α : Type) := Array Token → Cursor → Option α × Cursor

namespace Reading

variable {α β : Type}

/-- Take nothing. -/
protected def pure (a : α) : Reading α := fun _ c => (some a, c)

/-- One reading after another. -/
protected def bind (r : Reading α) (f : α → Reading β) : Reading β := fun ts c =>
  match r ts c with
  | (some a, c') => f a ts c'
  | (none, c') => (none, c')

instance : Monad Reading where
  pure := Reading.pure
  bind := Reading.bind

instance : Inhabited (Reading α) := ⟨fun _ c => (none, c)⟩

/-- No value. -/
def fail : Reading α := fun _ c => (none, c)

/-- Another reading in place of one that fails. -/
def orElse (r s : Reading α) : Reading α := fun ts c =>
  match r ts c with
  | (some a, c') => (some a, c')
  | (none, c') => s ts { c with furthest := c'.furthest, recent := c'.recent }

/-- A reading that may be absent. -/
def optional (r : Reading α) : Reading (Option α) := orElse (some <$> r) (pure none)

/-- A value that has to be there. -/
def ofOption : Option α → Reading α
  | some a => pure a
  | none => fail

/-- The token that is `ahead` places further on, without taking it. -/
def lookAhead (ahead : Nat) : Reading Token := fun ts c =>
  let i := c.position + ahead
  (ts[i]?, { c with furthest := max c.furthest i })

/-- The next token, without taking it. -/
def peek : Reading Token := lookAhead 0

/-- Take one token. -/
def skip : Reading Unit := fun _ c => (some (), { c with position := c.position + 1 })

/-- The cursor. -/
def cursor : Reading Cursor := fun _ c => (some c, c)

/-- Set the line of the statement that is being read. -/
def setLine (line : Nat) : Reading Unit := fun _ c => (some (), { c with line := line })

/-- Remember an expression that began at an index and ends here. -/
def remember (start : Nat) : Reading Unit := fun _ c =>
  (some (), if c.recent.2 ≤ c.position then { c with recent := (start, c.position) } else c)

/-- Whether a token is the given operator. -/
def isOp (s : String) (t : Token) : Bool := t.kind matches .operator && t.text == s

/-- Whether a token is the given word. -/
def isWord (s : String) (t : Token) : Bool := t.kind matches .name && t.text == s

/-- Whether a token is a name and no keyword. -/
def isIdentifier (t : Token) : Bool := t.kind matches .name && !keywords.contains t.text

/-- Whether the token after the next one satisfies a condition; it is looked at only if `b` holds. -/
def secondIf (b : Bool) (p : Token → Bool) : Reading Bool := do
  if b then return p (← lookAhead 1) else return false

/-- Take the next token if it satisfies a condition. -/
def takeIf (p : Token → Bool) : Reading Bool := do
  if p (← peek) then
    skip
    return true
  else return false

/-- Take an operator if it comes next. -/
def op? (s : String) : Reading Bool := takeIf (isOp s)

/-- Take a word if it comes next. -/
def word? (s : String) : Reading Bool := takeIf (isWord s)

/-- Take an operator if it may be taken and comes next. -/
def opIf (b : Bool) (s : String) : Reading Bool := do
  if b then op? s else return false

/-- Whether an operator comes next. -/
def atOp (s : String) : Reading Bool := return isOp s (← peek)

/-- Whether a word comes next. -/
def atWord (s : String) : Reading Bool := return isWord s (← peek)

/-- Go on only under a condition. -/
def require (b : Bool) : Reading Unit := if b then pure () else fail

/-- Take an operator. -/
def op (s : String) : Reading Unit := do require (← op? s)

/-- Take a word. -/
def word (s : String) : Reading Unit := do require (← word? s)

/-- Take a name. -/
def identifier : Reading String := do
  let t ← peek
  require (isIdentifier t)
  skip
  return t.text

/-- Take the end of a line. -/
def newline : Reading Unit := do require (← takeIf (·.kind matches .newline))

/-- Take values as long as there are any, at most `fuel` of them. -/
def many (fuel : Nat) (r : Reading (Option α)) : Reading (List α) :=
  match fuel with
  | 0 => fail
  | fuel + 1 => do
    match ← r with
    | some a => return a :: (← many fuel r)
    | none => return []

/-- Combine a value with what follows as long as something does, at most `fuel` times. -/
def chain (fuel : Nat) (a : α) (r : α → Reading (Option α)) : Reading α :=
  match fuel with
  | 0 => fail
  | fuel + 1 => do
    match ← r a with
    | some b => chain fuel b r
    | none => return a

/-- Enough for any loop that takes a token in each round. -/
def size : Reading Nat := fun ts c => (some (ts.size + 1), c)

/-- Values with commas between them up to a point where none can begin; whether a comma ends them. -/
def commaList (atEnd : Reading Bool) (r : Reading α) : Reading (List α × Bool) := do
  let first ← r
  let rest ← many (← size) do
    if ← atOp "," then
      skip
      if ← atEnd then return none else return some (← r)
    else return none
  let c ← cursor
  let trailing : Bool ← fun ts c' =>
    (some (((ts[c.position - 1]?).map (isOp ",")).getD false), c')
  return (first :: rest, trailing)

end Reading

end Stencil.Script
