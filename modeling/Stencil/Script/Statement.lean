import Stencil.Script.Patterns

/-!
# Reading statements

Simple statements end with their line, several of them separated by semicolons; compound statements own
a block, which is indented on the lines below or stands on the same line. `readScript` reads a whole
script and `readExpression` one expression; both name the line to blame when that is not possible.
-/

namespace Stencil.Script

namespace Statement

open Reading Expression

/-- The operators that combine a target with a value. -/
def augmentedOperators : List (String × BinaryOp) :=
  [("+=", .add), ("-=", .sub), ("*=", .mul), ("@=", .matMul), ("/=", .div), ("//=", .floorDiv),
    ("%=", .mod), ("**=", .pow), ("<<=", .shiftLeft), (">>=", .shiftRight), ("|=", .bitOr),
    ("^=", .bitXor), ("&=", .bitAnd)]

section

variable (rules : Rules)

/-- A value to assign. -/
def assigned : Reading Expr := onItsLine do
  if ← word? "yield" then yieldRest rules else starExpressions rules

/-- Expressions with commas; a starred one may stand alone as a target. -/
def leftSide : Reading Expr := onItsLine do
  let (items, trailing) ← commaList atEnd do
    if ← op? "*" then return .star (← rules.operand) else rules.expression
  match items, trailing with
  | [e], false => return e
  | _, _ => return .tuple items

/-- The targets after the first one and the value; `none` stands for a last value. -/
def assignment (first : Expr) : Reading Stmt := do
  let more ← many (← size) do
    if ← op? "=" then return some (← assigned rules) else return none
  let all := first :: more
  let targets := all.dropLast
  require (targets.all (·.isTarget true))
  let value := all.getLast?.getD first
  require !value.isStar
  return if targets.isEmpty then .expr value else .assign targets value

/-- A statement that begins with an expression. -/
def expressionStatement : Reading Stmt := do
  let bare := isIdentifier (← peek)
  let first ← (do
    if ← word? "yield" then yieldRest rules else leftSide rules : Reading Expr)
  let t ← peek
  match augmentedOperators.find? fun o => isOp o.1 t with
  | some (_, op) =>
    require first.isSingleTarget
    require (first.isTarget false)
    skip
    return .augment first op (← assigned rules)
  | none =>
    if isOp ":" t then
      require (first.isSingleTarget && first.isTarget false)
      skip
      let annotation ← rules.expression
      let value ← (do
        if ← op? "=" then return some (← assigned rules) else return none : Reading (Option Expr))
      return .annotate first annotation value (bare && first matches .name _)
    else assignment rules first

/-- A name with dots. -/
def dottedPath : Reading (List String) := do
  let first ← identifier
  let rest ← many (← size) do
    if ← op? "." then return some (← identifier) else return none
  return first :: rest

/-- A name after `as`. -/
def alias? : Reading (Option String) := do
  if ← word? "as" then return some (← identifier) else return none

/-- What an import brings in from a module. -/
def importTargets : Reading (List ImportedName) := do
  let name : Reading ImportedName := do
    let n ← identifier
    return ⟨[n], ← alias?⟩
  let nameEnd : Reading Bool := return !isIdentifier (← peek)
  if ← op? "*" then return []
  else if ← op? "(" then
    let (names, _) ← commaList nameEnd name
    op ")"
    return names
  else
    let (names, trailing) ← commaList nameEnd name
    require !trailing
    return names

/-- The leading dots of a relative import. -/
def importLevel : Reading Nat := do
  let dots ← many (← size) do
    if ← op? "." then return some 1
    else if ← op? "..." then return some 3
    else return none
  return dots.foldl (· + ·) 0

/-- An import from a module, after its first word. -/
def importFrom : Reading Stmt := do
  let level ← importLevel
  let path ← (do
    if isIdentifier (← peek) then dottedPath
    else
      require (level > 0)
      return [] : Reading (List String))
  word "import"
  return .importFrom level path (← importTargets)

/-- Names with commas. -/
def names : Reading (List String) := do
  let (ns, trailing) ← commaList (pure false) identifier
  require !trailing
  return ns

/-- An expression that may be absent before the end of a statement. -/
def optionalExpressions : Reading (Option Expr) := do
  if beginsItem (← peek) then return some (← onItsLine (starExpressions rules)) else return none

/-- A statement without a block. -/
def simple : Reading Stmt := do
  let t ← peek
  let after (s : Stmt) : Reading Stmt := do
    skip
    return s
  let keyword := if t.kind matches .name then t.text else ""
  match keyword with
  | "pass" => after .pass
  | "break" => after .breakLoop
  | "continue" => after .continueLoop
  | "return" =>
    skip
    return .return (← optionalExpressions rules)
  | "raise" =>
    skip
    if begins (← peek) then
      let e ← rules.expression
      let cause ← (do
        if ← word? "from" then return some (← rules.expression) else return none :
        Reading (Option Expr))
      return .raise (some e) cause
    else return .raise none none
  | "assert" =>
    skip
    let test ← rules.expression
    let message ← (do
      if ← op? "," then return some (← rules.expression) else return none : Reading (Option Expr))
    return .assert test message
  | "global" =>
    skip
    return .global (← names)
  | "nonlocal" =>
    skip
    return .nonlocal (← names)
  | "del" =>
    skip
    let (items, _) ← commaList atEnd (onItsLine rules.primary)
    require (items.all (·.isTarget false))
    return .delete items
  | "import" =>
    skip
    let (imported, trailing) ← commaList (pure false) do
      let path ← dottedPath
      return (⟨path, ← alias?⟩ : ImportedName)
    require !trailing
    return .import imported
  | "from" =>
    skip
    importFrom
  | _ => expressionStatement rules

/-- The block that a compound statement owns. -/
def body : Reading Block := rules.block

/-- A colon and the block after it. -/
def colonBody : Reading Block := do
  op ":"
  body rules

/-- An alternative block. -/
def elseBody : Reading Block := do
  if ← word? "else" then colonBody rules else return []

/-- The rest of a conditional statement after `if` or `elif`; `fuel` bounds the alternatives. -/
def conditional (fuel : Nat) : Reading Stmt :=
  match fuel with
  | 0 => fail
  | fuel + 1 => do
    let test ← onItsLine (namedExpression rules)
    let yes ← colonBody rules
    let t ← peek
    if isWord "elif" t then
      skip
      setLine t.line
      let inner ← conditional fuel
      return .if test yes [.at t.line inner]
    else return .if test yes (← elseBody rules)

/-- A loop over items, after its first word. -/
def loop (asynchronous : Bool) : Reading Stmt := do
  let target ← targets rules
  word "in"
  let source ← onItsLine (starExpressions rules)
  let inner ← colonBody rules
  return .for target source inner (← elseBody rules) asynchronous

/-- One handler of a `try` statement; `group` tells the two forms apart. -/
def handler (group : Bool) : Reading (Option (Handler Stmt)) := do
  let t ← peek
  if isWord "except" t then
    skip
    setLine t.line
    require ((← op? "*") == group)
    let everything := isOp ":" (← peek)
    if !group && everything then
      return some { line := t.line, type := none, name := none, body := ← colonBody rules }
    else
      let type ← rules.expression
      let name ← (do
        if ← word? "as" then return some (← identifier) else return none : Reading (Option String))
      return some { line := t.line, type := some type, name, body := ← colonBody rules }
  else return none

/-- A `try` statement after its first word. -/
def guarded : Reading Stmt := do
  let inner ← colonBody rules
  let group ← secondIf (isWord "except" (← peek)) (isOp "*")
  let handlers ← many (← size) (handler rules group)
  let orElse ← (do
    if handlers.isEmpty then return [] else elseBody rules : Reading Block)
  let finish ← (do
    if ← word? "finally" then return some (← colonBody rules) else return none :
    Reading (Option Block))
  require (!handlers.isEmpty || finish.isSome)
  return .try inner handlers orElse (finish.getD []) group

/-- A resource of a `with` statement and the target it is bound to. -/
def resource : Reading (Expr × Option Expr) := do
  let e ← rules.expression
  if ← word? "as" then
    let t ← (do
      if ← op? "*" then return .star (← rules.primary) else rules.primary : Reading Expr)
    require (t.isTarget true)
    return (e, some t)
  else return (e, none)

/-- A `with` statement after its first word. -/
def withResources (asynchronous : Bool) : Reading Stmt := do
  let bracketed : Reading (List (Expr × Option Expr)) := do
    op "("
    let (items, _) ← commaList atEnd (resource rules)
    op ")"
    require (← atOp ":")
    return items
  let plain : Reading (List (Expr × Option Expr)) := do
    let (items, trailing) ← commaList (pure false) (resource rules)
    require !trailing
    require (← atOp ":")
    return items
  let items ← Reading.orElse bracketed plain
  return .with items (← colonBody rules) asynchronous

/-- A function after its first word. -/
def function (decorators : List Expr) (asynchronous : Bool) : Reading Stmt := do
  let name ← identifier
  op "("
  let params ← parameters rules true ")"
  op ")"
  let result ← (do
    if ← op? "->" then return some (← rules.expression) else return none : Reading (Option Expr))
  return .function decorators name params result (← colonBody rules) asynchronous

/-- A class after its first word. -/
def classStatement (decorators : List Expr) : Reading Stmt := do
  let name ← identifier
  let args ← (do
    if ← op? "(" then arguments rules else return [] : Reading (List (Argument Expr)))
  return .klass decorators name args (← colonBody rules)

/-- A decorated function or class. -/
def decorated : Reading Stmt := do
  let decorators ← many (← size) do
    if ← op? "@" then
      let e ← onItsLine (namedExpression rules)
      newline
      return some e
    else return none
  let t ← peek
  setLine t.line
  if ← word? "class" then classStatement rules decorators
  else
    let asynchronous ← word? "async"
    word "def"
    function rules decorators asynchronous

/-- One case of a `match` statement. -/
def matchCase : Reading (Option (Case Stmt)) := do
  let t ← peek
  if isWord "case" t then
    skip
    setLine t.line
    let pattern ← Patterns.top rules
    let guard ← (do
      if ← word? "if" then return some (← namedExpression rules) else return none :
      Reading (Option Expr))
    return some { pattern, guard, body := ← colonBody rules }
  else return none

/-- A `match` statement. -/
def matchStatement : Reading Stmt := do
  word "match"
  let (items, trailing) ← commaList atEnd (starItem rules)
  let subject ← (match items, trailing with
    | [e], false => do
      require !e.isStar
      return e
    | _, _ => return .tuple items : Reading Expr)
  op ":"
  newline
  require (← takeIf (·.kind matches .indent))
  let cases ← many (← size) (matchCase rules)
  require !cases.isEmpty
  require (← takeIf (·.kind matches .dedent))
  return .match subject cases

/-- Simple statements on one line. -/
def simpleLine : Reading Block := do
  let one : Reading Stmt := do
    let t ← peek
    setLine t.line
    return .at t.line (← simple rules)
  let first ← one
  let rest ← many (← size) do
    if ← op? ";" then
      if (← peek).kind matches .newline then return none else return some (← one)
    else return none
  newline
  return first :: rest

/-- A statement with a block, when a word or operator begins one. -/
def compound? (t : Token) : Option (Reading Stmt) :=
  match t.kind with
  | .name =>
    match t.text with
    | "if" => some do
      skip
      conditional rules (← size)
    | "while" => some do
      skip
      let test ← onItsLine (namedExpression rules)
      let inner ← colonBody rules
      return .while test inner (← elseBody rules)
    | "for" => some do
      skip
      loop rules false
    | "try" => some do
      skip
      guarded rules
    | "with" => some do
      skip
      withResources rules false
    | "def" => some do
      skip
      function rules [] false
    | "class" => some do
      skip
      classStatement rules []
    | "async" => some do
      skip
      if ← word? "def" then function rules [] true
      else if ← word? "for" then loop rules true
      else
        word "with"
        withResources rules true
    | _ => none
  | .operator => if t.text == "@" then some (decorated rules) else none
  | _ => none

/-- The statements of a line, or one compound statement. -/
def statements : Reading Block := do
  let t ← peek
  setLine t.line
  match compound? rules t with
  | some r => return [.at t.line (← r)]
  | none =>
    if isWord "match" t then
      orElse (do return [.at t.line (← matchStatement rules)]) do
        setLine t.line
        simpleLine rules
    else simpleLine rules

/-- A block: lines indented below, or simple statements on the same line. -/
def block : Reading Block := do
  if ← takeIf (·.kind matches .newline) then
    require (← takeIf (·.kind matches .indent))
    let first ← statements rules
    let rest ← many (← size) do
      if ← takeIf (·.kind matches .dedent) then return none else return some (← statements rules)
    return first ++ rest.flatten
  else simpleLine rules

/-- All statements up to the end of a script. -/
def script : Reading Block := do
  let all ← many (← size) do
    if (← peek).kind matches .finish then return none else return some (← statements rules)
  return all.flatten

end

end Statement

/-- The rules at a depth of nesting that is at most `fuel`. -/
def rules : Nat → Rules
  | 0 => ⟨Reading.fail, Reading.fail, Reading.fail, Reading.fail, Reading.fail, Reading.fail,
      Reading.fail⟩
  | fuel + 1 =>
    { expression := fun ts c => Expression.expression (rules fuel) ts c
      factor := fun ts c => Expression.factor (rules fuel) ts c
      primary := fun ts c => Expression.primary (rules fuel) ts c
      operand := fun ts c => Expression.operand (rules fuel) ts c
      disjunction := fun ts c => Expression.disjunction (rules fuel) ts c
      block := fun ts c => Statement.block (rules fuel) ts c
      pattern := fun ts c => Patterns.pattern (rules fuel) ts c }

namespace Blame

open Reading

/-- Whether an expression that was read is to blame together with what follows it: inside brackets two
expressions stand side by side. The line is that of the first of them. -/
def missingComma? (r : Rules) (ts : Array Token) (c : Cursor) : Option Nat :=
  let (start, stop) := c.recent
  if stop != c.furthest || stop ≤ start then none
  else do
    let first ← ts[start]?
    let second := ts[start + 1]?
    let softWord := ["match", "case", "_"].any fun w => isWord w first
    let namedText := isIdentifier first && (second.map (·.kind matches .text _)).getD false
    let printing := stop == start + 1 && ["print", "exec"].any fun w => isWord w first
    if softWord || namedText || printing then none
    else
      match r.expression ts { position := stop } with
      | (some _, c') =>
        let last ← ts[c'.position - 1]?
        if last.level == 0 then none else some first.line
      | (none, _) => none

/-- The line to blame for a failed reading. A mistake in the characters comes first when the reading got
that far or when it comes later and could explain the failure; so does a bracket that is never
closed. -/
def line (r : Rules) (ts : Array Token) (e : Option LexicalError) (c : Cursor) : Nat :=
  match ts[c.furthest]? with
  | none => ((e.map (·.line)).getD 1)
  | some t =>
    match missingComma? r ts c with
    | some n => later n t
    | none =>
      match t.kind with
      | .indent => t.line
      | .dedent => t.line
      | _ => later t.line t
where
  /-- The line of a later mistake in the characters, or else the given one. -/
  later (n : Nat) (t : Token) : Nat :=
    match e with
    | none => n
    | some e =>
      if e.hard then e.line
      else match e.openLine with
        | some l => if l < t.line then l else n
        | none => n

end Blame

/-- Read what a rule makes of a whole script. -/
def readWith {α : Type} (source : List Char) (r : Rules → Reading α) : Except Nat α :=
  let (ts, e) := lex source
  let tokens := ts.toArray
  let rs := rules (source.length + 2)
  match r rs tokens { line := 1 } with
  | (some a, _) => .ok a
  | (none, c) => .error (Blame.line rs tokens e c)

/-- The statements of a script, or the line to blame. -/
def readScript (source : List Char) : Except Nat Block := readWith source Statement.script

/-- The expression that a script consists of, or the line to blame. -/
def readExpression (source : List Char) : Except Nat Expr := readWith source fun rs => do
  let (items, trailing) ← Reading.commaList Expression.atEnd rs.expression
  let _ ← Reading.many (← Reading.size) do
    if ← Reading.takeIf (·.kind matches .newline) then return some () else return none
  Reading.require ((← Reading.peek).kind matches .finish)
  match items, trailing with
  | [e], false => return e
  | _, _ => return .tuple items

end Stencil.Script
