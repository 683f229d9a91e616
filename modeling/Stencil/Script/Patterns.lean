import Stencil.Script.Expression

/-!
# Reading patterns

The patterns of `match` statements: literals, names to bind, dotted names to compare with, sequences,
tables and classes, alternatives between bars, and a name for the whole at the end.
-/

namespace Stencil.Script.Patterns

open Reading

section

variable (rules : Rules)

/-- A number with its sign, possibly with an imaginary part. -/
def signedNumber : Reading Expr := do
  let number : Reading Expr := do
    match (← peek).kind with
    | .number _ => Expression.atom rules
    | _ => fail
  let negative ← op? "-"
  let first ← number
  let e : Expr := if negative then .unary .minus first else first
  if ← op? "+" then return .binary .add e (← number)
  else if ← op? "-" then return .binary .sub e (← number)
  else return e

/-- A name with attributes. -/
def dottedName : Reading Expr := do
  let first ← identifier
  chain (← size) (Expr.name first) fun e => do
    if ← op? "." then return some (.attribute e (← identifier)) else return none

/-- A name to bind; an underscore stands for anything. -/
def captured (n : String) : Option String := if n == "_" then none else some n

/-- Whether no further pattern can begin. -/
def atEnd : Reading Bool := return !Expression.beginsItem (← peek)

/-- A pattern or the starred rest of a sequence. -/
def item : Reading Pattern := do
  if ← op? "*" then return .rest (captured (← identifier)) else rules.pattern

/-- Items with commas up to a closing bracket. -/
def items (closer : String) : Reading (List Pattern × Bool) := do
  if ← op? closer then return ([], false)
  else
    let r ← commaList atEnd (item rules)
    op closer
    return r

/-- An entry of a table: a key with a pattern, or the rest of the table. -/
def mappingItem : Reading (Option (Expr × Pattern) × String) := do
  if ← op? "**" then
    let n ← identifier
    require (n != "_")
    return (none, n)
  else
    let key ← (do
      match (← peek).kind with
      | .name => if isIdentifier (← peek) then dottedName else Expression.atom rules
      | .text _ => Expression.atom rules
      | _ => signedNumber rules : Reading Expr)
    op ":"
    return (some (key, ← rules.pattern), "")

/-- A table pattern after its opening brace. -/
def mapping : Reading Pattern := do
  if ← op? "\x7d" then return .mapping [] [] none
  else
    let mappingEnd : Reading Bool := do
      let t ← peek
      return !(Expression.begins t || isOp "**" t)
    let (entries, _) ← commaList mappingEnd (mappingItem rules)
    op "\x7d"
    let pairs := entries.filterMap (·.1)
    let rests := entries.filter (·.1.isNone)
    require (rests.length ≤ 1)
    require (rests.isEmpty || ((entries.getLast?).map (·.1.isNone)).getD false)
    return .mapping (pairs.map (·.1)) (pairs.map (·.2)) ((rests.head?).map (·.2))

/-- An argument of a class pattern. -/
def classItem : Reading (Option String × Pattern) := do
  if ← secondIf (isIdentifier (← peek)) (isOp "=") then
    let n ← identifier
    skip
    return (some n, ← rules.pattern)
  else return (none, ← rules.pattern)

/-- A class pattern after its opening parenthesis. -/
def classPattern (type : Expr) : Reading Pattern := do
  if ← op? ")" then return .klass type [] [] []
  else
    let (args, _) ← commaList atEnd (classItem rules)
    op ")"
    let positional := args.takeWhile (·.1.isNone)
    let named := args.drop positional.length
    require (named.all (·.1.isSome))
    return .klass type (positional.map (·.2)) (named.filterMap (·.1)) (named.map (·.2))

/-- A pattern without alternatives. -/
def closed : Reading Pattern := do
  let t ← peek
  match t.kind with
  | .name =>
    if isIdentifier t then
      let name ← dottedName
      if ← op? "(" then classPattern rules name
      else
        match name with
        | .name n => return .capture (captured n)
        | e => return .value e
    else return .value (← Expression.atom rules)
  | .number _ => return .value (← signedNumber rules)
  | .text _ => return .value (← Expression.atom rules)
  | .operator =>
    if isOp "-" t then return .value (← signedNumber rules)
    else if ← op? "(" then
      let (ps, trailing) ← items rules ")"
      match ps, trailing with
      | [.rest _], false => fail
      | [p], false => return p
      | _, _ => return .sequence ps
    else if ← op? "[" then return .sequence (← items rules "]").1
    else if ← op? "\x7b" then mapping rules
    else fail
  | _ => fail

/-- A pattern with alternatives, possibly named as a whole. -/
def pattern : Reading Pattern := do
  let first ← closed rules
  let rest ← many (← size) do
    if ← op? "|" then return some (← closed rules) else return none
  let p := if rest.isEmpty then first else .either (first :: rest)
  if ← word? "as" then
    let n ← identifier
    require (n != "_")
    return .bind p n
  else return p

/-- The pattern of a case: several patterns with commas are a sequence. -/
def top : Reading Pattern := do
  let (ps, trailing) ← commaList atEnd (item rules)
  match ps, trailing with
  | [.rest _], false => fail
  | [p], false => return p
  | _, _ => return .sequence ps

end

end Stencil.Script.Patterns
