import Stencil.Script.Lexer
import Stencil.Script.Literal
import Stencil.Script.Reading

/-!
# Reading expressions

Expressions are read by precedence, from atoms up to conditional expressions. What stands inside
brackets is read by the rules one level deeper, which are passed in as a record; so the depth of
nesting is the only thing that bounds the recursion.
-/

namespace Stencil.Script

/-- The readings that a construct needs for what it contains. -/
structure Rules where
  expression : Reading Expr
  /-- An operand with the signs before it. -/
  factor : Reading Expr
  /-- An atom with its attributes, subscripts and calls. -/
  primary : Reading Expr
  /-- An operand of a comparison. -/
  operand : Reading Expr
  /-- An expression without conditions. -/
  disjunction : Reading Expr
  block : Reading Block
  pattern : Reading Pattern

namespace Expr

/-- An expression without the mark of its line. -/
def core : Expr → Expr
  | .at _ e => core e
  | e => e

/-- A starred item. -/
def isStar (e : Expr) : Bool := e.core matches .star _

/-- Whether an expression can be assigned to; `star` allows one starred item among several. -/
def isTarget (star : Bool) : Expr → Bool
  | .name n => n != "__debug__"
  | .attribute _ n => n != "__debug__"
  | .subscript _ _ => true
  | .at _ e => isTarget star e
  | .list items =>
    items.attach.all (fun ⟨e, _⟩ => isItem star e) &&
      (items.filter isStar).length ≤ 1
  | .tuple items =>
    items.attach.all (fun ⟨e, _⟩ => isItem star e) &&
      (items.filter isStar).length ≤ 1
  | _ => false
where
  /-- Whether an item of several targets can be assigned to. -/
  isItem (star : Bool) : Expr → Bool
    | .star e => star && isTarget star e
    | .at _ e => isItem star e
    | e => isTarget star e

/-- Whether an expression can be assigned to on the left of an operator. -/
def isSingleTarget (e : Expr) : Bool :=
  match e.core with
  | .tuple _ => false
  | .list _ => false
  | e => e.isTarget false

end Expr

namespace Expression

open Reading

/-- Words that begin an expression. -/
def openingWords : List String := ["None", "True", "False", "not", "lambda", "await"]

/-- Operators that begin an expression. -/
def openingOperators : List String := ["(", "[", "\x7b", "+", "-", "~", "..."]

/-- Whether a token can begin an expression. -/
def begins (t : Token) : Bool :=
  match t.kind with
  | .name => isIdentifier t || openingWords.contains t.text
  | .number _ => true
  | .text _ => true
  | .operator => openingOperators.contains t.text
  | _ => false

/-- Whether a token can begin an item of several. -/
def beginsItem (t : Token) : Bool := begins t || isOp "*" t

/-- Whether no further item can begin. -/
def atEnd : Reading Bool := return !beginsItem (← peek)

/-- Read an expression on the line of its first token. -/
def onItsLine (r : Reading Expr) : Reading Expr := do
  let t ← peek
  let c ← cursor
  if t.line == c.line then r
  else
    setLine t.line
    let e ← r
    setLine c.line
    return .at t.line e

/-- A sequence of texts side by side. -/
def adjacentTexts : Reading (List TextLiteral) := do
  many (← size) do
    match (← peek).kind with
    | .text t =>
      skip
      return some t
    | _ => return none

/-- An operand before which nothing can bind more tightly. -/
def leftChain (ops : List (String × BinaryOp)) (operand : Reading Expr) : Reading Expr := do
  let first ← operand
  chain (← size) first fun left => do
    let t ← peek
    match ops.find? fun o => isOp o.1 t with
    | some (_, op) =>
      skip
      return some (.binary op left (← operand))
    | none => return none

/-- Several operands with a word between each two. -/
def wordChain (separator : String) (combine : List Expr → Expr) (operand : Reading Expr) :
    Reading Expr := do
  let first ← operand
  let rest ← many (← size) do
    if ← word? separator then return some (← operand) else return none
  return if rest.isEmpty then first else combine (first :: rest)

section

variable (rules : Rules)

/-- An expression or an assignment to a name inside one. -/
def namedExpression : Reading Expr := do
  let t ← peek
  let e ← (do
    if ← secondIf (isIdentifier t) (isOp ":=") then
      skip
      skip
      return .assign t.text (← rules.expression)
    else rules.expression)
  require !(← atOp ":=")
  return e

/-- The value and conversion of pieces of a formatted text. -/
def textParts (rules : Rules) (t : TextLiteral) (depth : Nat) (s : List Char) (nested : Bool) :
    Reading (List (TextPart Expr)) :=
  match depth with
  | 0 => fail
  | depth + 1 => do
    let pieces ← ofOption (Literal.pieces (s.length + 1) nested s)
    let parts ← pieces.mapM fun p => do
      match p with
      | .text s => return [TextPart.text (String.ofList (← ofOption (Literal.plainText? t s)))]
      | .hole code shown conversion format =>
        let e ← inner code
        let layout ← match format with
          | none => pure none
          | some f => do
            let parts ← textParts rules t depth f true
            pure (some (.formatted parts))
        let plain := conversion.isNone && layout.isNone
        let value := TextPart.value e (if shown && plain then some 'r' else conversion) layout
        return if shown then [.text (String.ofList (code ++ ['='])), value] else [value]
    return parts.flatten
where
  /-- The expression that stands in braces. -/
  inner (code : List Char) : Reading Expr := fun _ c =>
    match lex ('(' :: (code ++ [')'])) with
    | (ts, none) =>
      match rules.expression ts.toArray { line := 1 } with
      | (some e, c') =>
        let finished := ((ts[c'.position]?).map fun t => t.kind matches .finish).getD false
        (if finished then some e else none, c)
      | (none, _) => (none, c)
    | _ => (none, c)

/-- The value of texts side by side. -/
def textValue (ts : List TextLiteral) : Reading Expr := do
  require (ts.all (·.bytes) || !ts.any (·.bytes))
  if ts.any (·.formatted) then
    let parts ← ts.mapM fun t => do
      if t.formatted then textParts rules t 3 t.body false
      else return [TextPart.text (String.ofList (← ofOption (Literal.plainText? t t.body)))]
    return .formatted parts.flatten
  else
    let bodies ← ts.mapM fun t => ofOption (Literal.plainText? t t.body)
    if ts.any (·.bytes) then
      require (bodies.all (·.all (·.toNat < 256)) && ts.all (·.body.all (·.toNat < 128)))
      return .constant .bytes
    else return .constant (.str (String.ofList bodies.flatten))

/-- A starred item of a display. -/
def starItem : Reading Expr := do
  if ← op? "*" then return .star (← rules.operand) else namedExpression rules

/-- A target of a loop, without starred alternatives spelt out: a primary expression that can be
assigned to. -/
def targets : Reading Expr := do
  let item : Reading Expr := onItsLine do
    if ← op? "*" then return .star (← rules.primary) else rules.primary
  let (items, trailing) ← commaList atEnd item
  let e ← (match items, trailing with
    | [e], false => pure e
    | _, _ => pure (.tuple items) : Reading Expr)
  require (e.isTarget true)
  return e

/-- The `for` clauses of a comprehension. -/
def clauses : Reading (List (Clause Expr)) := do
  let cs ← many (← size) do
    let asynchronous ← word? "async"
    if ← word? "for" then
      let target ← targets rules
      word "in"
      let source ← onItsLine rules.disjunction
      let conditions ← many (← size) do
        if ← word? "if" then return some (← onItsLine rules.disjunction) else return none
      return some { target, source, conditions, asynchronous }
    else
      require !asynchronous
      return none
  require !cs.isEmpty
  return cs

/-- Whether a comprehension goes on here. -/
def atClause : Reading Bool := do
  let t ← peek
  return isWord "for" t || isWord "async" t

/-- Items with commas, of which a single one needs none; a starred one does not stand alone. -/
def itemList (item : Reading Expr) : Reading Expr := do
  let (items, trailing) ← commaList atEnd item
  match items, trailing with
  | [e], false =>
    require !e.isStar
    return e
  | _, _ => return .tuple items

/-- Expressions with commas, some of them starred. -/
def starExpressions : Reading Expr :=
  itemList do
    if ← op? "*" then return .star (← rules.operand) else rules.expression

/-- A value that a generator hands out; the word itself has been taken. -/
def yieldRest : Reading Expr := do
  if ← word? "from" then return .yieldFrom (← rules.expression)
  else if beginsItem (← peek) then return .yield (some (← starExpressions rules))
  else return .yield none

/-- What stands in parentheses, after the opening one. -/
def parenthesized : Reading Expr := do
  if ← op? ")" then return .tuple []
  else if ← word? "yield" then
    let e ← yieldRest rules
    op ")"
    return e
  else
    let first ← starItem rules
    if ← atClause then
      require !first.isStar
      let cs ← clauses rules
      op ")"
      return .comprehension .generator first cs
    else if ← op? "," then
      if ← atEnd then
        op ")"
        return .tuple [first]
      else
        let (rest, _) ← commaList atEnd (starItem rules)
        op ")"
        return .tuple (first :: rest)
    else
      op ")"
      require !first.isStar
      return first

/-- What stands in square brackets, after the opening one. -/
def bracketed : Reading Expr := do
  if ← op? "]" then return .list []
  else
    let (items, trailing) ← commaList atEnd (starItem rules)
    match items, trailing, ← atClause with
    | [e], false, true =>
      require !e.isStar
      let cs ← clauses rules
      op "]"
      return .comprehension .list e cs
    | _, _, _ =>
      op "]"
      return .list items

/-- An entry of a table. -/
def entry : Reading (Entry Expr) := do
  if ← op? "**" then return .spread (← rules.operand)
  else
    let key ← rules.expression
    op ":"
    return .pair key (← rules.expression)

/-- Whether no further entry can begin. -/
def atEntryEnd : Reading Bool := do
  let t ← peek
  return !(begins t || isOp "**" t)

/-- What stands in braces, after the opening one. -/
def braced : Reading Expr := do
  if ← op? "\x7d" then return .dict []
  else
    let table : Reading Expr := do
      let (entries, trailing) ← commaList atEntryEnd (entry rules)
      match entries, trailing, ← atClause with
      | [.pair k v], false, true =>
        let cs ← clauses rules
        op "\x7d"
        return .dictComprehension k v cs
      | _, _, _ =>
        op "\x7d"
        return .dict entries
    let collection : Reading Expr := do
      let (items, trailing) ← commaList atEnd (starItem rules)
      match items, trailing, ← atClause with
      | [e], false, true =>
        require !e.isStar
        let cs ← clauses rules
        op "\x7d"
        return .comprehension .set e cs
      | _, _, _ =>
        op "\x7d"
        return .set items
    orElse collection table

/-- The arguments of a call, after the opening parenthesis. -/
def arguments : Reading (List (Argument Expr)) := do
  if ← op? ")" then return []
  else
    let argument : Reading (Argument Expr) := do
      let t ← peek
      if isOp "*" t then
        skip
        return .spread (← rules.expression)
      else if isOp "**" t then
        skip
        return .spreadNamed (← rules.expression)
      else if ← secondIf (isIdentifier t) (isOp "=") then
        skip
        skip
        return .named t.text (← rules.expression)
      else return .positional (← namedExpression rules)
    let argumentEnd : Reading Bool := do
      let t ← peek
      return !(beginsItem t || isOp "**" t)
    let (args, trailing) ← commaList argumentEnd argument
    match args, trailing, ← atClause with
    | [.positional e], false, true =>
      let cs ← clauses rules
      op ")"
      return [.positional (.comprehension .generator e cs)]
    | _, _, _ =>
      op ")"
      require (ordered args)
      return args
where
  /-- Arguments by position come before named ones, starred ones before tables of names. -/
  ordered : List (Argument Expr) → Bool
    | [] => true
    | .positional _ :: rest => ordered rest
    | .spread _ :: rest => ordered rest
    | .named _ _ :: rest => rest.all (fun a => !(a matches .positional _)) && ordered rest
    | .spreadNamed _ :: rest =>
      rest.all (fun a => !(a matches .positional _) && !(a matches .spread _)) && ordered rest

/-- One index or range of a subscript. -/
def sliceItem : Reading Expr := do
  if ← op? "*" then return .star (← rules.expression)
  else
    let bound : Reading (Option Expr) := do
      if begins (← peek) then return some (← rules.expression) else return none
    let lower ← (do
      if ← atOp ":" then return none else return some (← namedExpression rules) : Reading (Option Expr))
    match lower, ← op? ":" with
    | some e, false => return e
    | none, false => fail
    | _, true =>
      require (lower.all fun e => !(e.core matches .assign _ _))
      let upper ← bound
      let step ← (do if ← op? ":" then bound else return none : Reading (Option Expr))
      return .slice lower upper step

/-- The subscript after an opening bracket. -/
def subscript : Reading Expr := do
  let sliceEnd : Reading Bool := do
    let t ← peek
    return !(beginsItem t || isOp ":" t)
  let (items, trailing) ← commaList sliceEnd (sliceItem rules)
  op "]"
  match items, trailing with
  | [e], false => return if e.isStar then .tuple [e] else e
  | _, _ => return .tuple items

/-- An expression without operators around it. -/
def atom : Reading Expr := do
  let t ← peek
  match t.kind with
  | .name =>
    if isIdentifier t then
      skip
      return .name t.text
    else
      let constant : Option Constant :=
        match t.text with
        | "None" => some .none
        | "True" => some (.bool true)
        | "False" => some (.bool false)
        | _ => none
      let c ← ofOption constant
      skip
      return .constant c
  | .number n =>
    skip
    match n with
    | .int n => return .constant (.int n)
    | .float x => return .constant (.float x)
    | .imaginary => return .constant .imaginary
  | .text _ => textValue rules (← adjacentTexts)
  | .operator =>
    if ← op? "(" then parenthesized rules
    else if ← op? "[" then bracketed rules
    else if ← op? "\x7b" then braced rules
    else if ← op? "..." then return .constant .ellipsis
    else fail
  | _ => fail

/-- An atom with its attributes, subscripts and calls. -/
def primary : Reading Expr := do
  let first ← atom rules
  chain (← size) first fun e => do
    if ← op? "." then return some (.attribute e (← identifier))
    else if ← op? "(" then return some (.call e (← arguments rules))
    else if ← op? "[" then return some (.subscript e (← subscript rules))
    else return none

/-- A primary expression that may be awaited. -/
def awaited : Reading Expr := do
  if ← word? "await" then return .await (← primary rules) else primary rules

/-- A power; its exponent may have a sign. -/
def power : Reading Expr := do
  let base ← awaited rules
  if ← op? "**" then return .binary .pow base (← rules.factor) else return base

/-- An operand with its signs. -/
def factor : Reading Expr := do
  if ← op? "+" then return .unary .plus (← rules.factor)
  else if ← op? "-" then return .unary .minus (← rules.factor)
  else if ← op? "~" then return .unary .invert (← rules.factor)
  else power rules

/-- Products. -/
def term : Reading Expr :=
  leftChain [("*", .mul), ("/", .div), ("//", .floorDiv), ("%", .mod), ("@", .matMul)]
    (factor rules)

/-- Sums. -/
def sum : Reading Expr := leftChain [("+", .add), ("-", .sub)] (term rules)

/-- Shifts. -/
def shift : Reading Expr :=
  leftChain [("<<", .shiftLeft), (">>", .shiftRight)] (sum rules)

/-- Operands of comparisons: bitwise operators by precedence. -/
def operand : Reading Expr :=
  leftChain [("|", .bitOr)]
    (leftChain [("^", .bitXor)] (leftChain [("&", .bitAnd)] (shift rules)))

/-- The comparison operator that comes next. -/
def compareOp? : Reading (Option CompareOp) := do
  let t ← peek
  match t.kind with
  | .operator =>
    let table : List (String × CompareOp) :=
      [("==", .eq), ("!=", .ne), ("<", .lt), ("<=", .le), (">", .gt), (">=", .ge)]
    match table.find? fun o => o.1 == t.text with
    | some (_, op) =>
      skip
      return some op
    | none => return none
  | .name =>
    if t.text == "in" then
      skip
      return some .isIn
    else if t.text == "is" then
      skip
      if ← word? "not" then return some .isNot else return some .is
    else if ← secondIf (t.text == "not") (isWord "in") then
      skip
      skip
      return some .isNotIn
    else return none
  | _ => return none

/-- Chains of comparisons. -/
def comparison : Reading Expr := do
  let first ← operand rules
  let rest ← many (← size) do
    match ← compareOp? with
    | some op => return some (op, ← operand rules)
    | none => return none
  return if rest.isEmpty then first else .compare first rest

/-- Negations. -/
def inversion : Reading Expr := do
  let nots ← many (← size) do
    if ← word? "not" then return some () else return none
  let e ← comparison rules
  return nots.foldl (fun e _ => .unary .not e) e

/-- Disjunctions of conjunctions. -/
def disjunction : Reading Expr :=
  wordChain "or" .disjunction (wordChain "and" .conjunction (inversion rules))

end

/-- What has been read of the parameters of a function. -/
structure ParameterState where
  params : List (Parameter Expr) := []
  /-- A star has been read. -/
  star : Bool := false
  /-- A bare star still lacks a parameter after it. -/
  bare : Bool := false
  slash : Bool := false
  /-- A parameter with a fallback has been read. -/
  fallback : Bool := false
  finished : Bool := false

/-- Read one parameter; `annotated` allows annotations. -/
def parameter (rules : Rules) (annotated : Bool) (st : ParameterState) : Reading ParameterState := do
  require !st.finished
  let annotation (star : Bool) : Reading (Option Expr) := do
    if ← opIf annotated ":" then
      if ← opIf star "*" then return some (.star (← rules.operand)) else return some (← rules.expression)
    else return none
  if ← op? "/" then
    require (!st.star && !st.slash && !st.params.isEmpty)
    let params := st.params.map fun p => { p with kind := .positionalOnly }
    return { st with slash := true, params }
  else if ← op? "*" then
    require !st.star
    if isIdentifier (← peek) then
      let name ← identifier
      let a ← annotation true
      let p : Parameter Expr := { name, kind := .rest, annotation := a }
      return { st with star := true, params := st.params ++ [p] }
    else
      require (← atOp ",")
      return { st with star := true, bare := true }
  else if ← op? "**" then
    require !st.bare
    let name ← identifier
    let a ← annotation false
    let p : Parameter Expr := { name, kind := .namedRest, annotation := a }
    return { st with finished := true, params := st.params ++ [p] }
  else
    let name ← identifier
    let a ← annotation false
    let fallback ← (do
      if ← op? "=" then return some (← rules.expression) else return none : Reading (Option Expr))
    require (st.star || fallback.isSome || !st.fallback)
    let p : Parameter Expr :=
      { name, kind := if st.star then .named else .positional, annotation := a, fallback }
    return { st with bare := false, params := st.params ++ [p]
                     fallback := st.fallback || fallback.isSome }

/-- The parameters up to an operator, which is not taken. -/
def parameters (rules : Rules) (annotated : Bool) (closer : String) :
    Reading (List (Parameter Expr)) := do
  if ← atOp closer then return []
  else
    let first ← parameter rules annotated {}
    let st ← chain (← size) first fun st => do
      if ← op? "," then
        if ← atOp closer then return none else return some (← parameter rules annotated st)
      else return none
    require (← atOp closer)
    require !st.bare
    require (distinct (st.params.map (·.name)))
    return st.params
where
  /-- Whether no name occurs twice. -/
  distinct : List String → Bool
    | [] => true
    | n :: ns => !ns.contains n && distinct ns

/-- An expression: a disjunction, a conditional expression or a function without a name. -/
def expression (rules : Rules) : Reading Expr := onItsLine do
  if ← word? "lambda" then
    let params ← parameters rules false ":"
    op ":"
    return .lambda params (← rules.expression)
  else
    let start := (← cursor).position
    let e ← disjunction rules
    remember start
    if ← word? "if" then
      let test ← disjunction rules
      word "else"
      return .conditional test e (← rules.expression)
    else return e

end Expression

end Stencil.Script
