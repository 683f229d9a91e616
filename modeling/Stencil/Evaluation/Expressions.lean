import Stencil.Evaluation.Methods
import Stencil.Evaluation.Names

/-!
# Evaluating expressions

The value of an expression, and binding targets to values. Operands are evaluated from the left. A
comprehension has a frame for its targets; its first source is evaluated outside of it.
-/

namespace Stencil.Evaluation

open World Script

/-- Stop because a script uses what cannot be evaluated. -/
def unavailable {α : Type} (what : String) : Action α := raiseText "NotImplementedError" what

/-- Evaluate something that begins on a line. An exception that gets to the outermost level of a script
without a line comes from there. -/
def onLine {α : Type} (env : Env) (line : Nat) (x : Action α) : Action α := do
  if env.frames.isEmpty then
    match ← attempt x with
    | .error (.raised r) => throw (.raised { r with line := r.line <|> some line })
    | outcome => resume outcome
  else x

/-- The value of a constant. -/
def constantValue : Constant → Action Value
  | .none => return .none
  | .bool b => return .bool b
  | .int n => return .int n
  | .float x => return .float x
  | .str s => return .str s
  | .ellipsis => return .ellipsis
  | .imaginary => unavailable "imaginary numbers"
  | .bytes => unavailable "bytes"

section

variable (m : Interpreter)

/-- What an operator makes of two values. -/
def operate (op : BinaryOp) (a b : Value) : Action Value :=
  binary (collect m) (percent m) (symbol op) op a b

/-- What an assignment with an operator makes of two values; lists, tables and sets change in place. -/
def operateInPlace (op : BinaryOp) (a b : Value) : Action Value := do
  match a, op, ← object? a with
  | .ref r, .add, some (.list items) =>
    match ← iterator? b with
    | some it =>
      let more ← drain m it
      store r (.list (items ++ more.toArray))
      return a
    | none => notIterable b
  | .ref r, .mul, some (.list _) =>
    match ← binary (collect m) (percent m) (assigningSymbol op) op a b with
    | .ref q =>
      match ← load q with
      | .list items => store r (.list items)
      | _ => pure ()
      return a
    | v => return v
  | .ref r, .bitOr, some (.dict entries) =>
    store r (.dict (← extendTable m "dict" entries { items := [b] }))
    return a
  | .ref r, _, some (.assets ..) =>
    if ← AssetSet.assign m op r b then return a
    else binary (collect m) (percent m) (assigningSymbol op) op a b
  | _, _, _ => binary (collect m) (percent m) (assigningSymbol op) op a b

/-- Whether a comparison holds. -/
def compareValues (op : CompareOp) (a b : Value) : Action Bool := do
  match op with
  | .eq => equals m.text a b
  | .ne => return !(← equals m.text a b)
  | .lt => ordered m.text .lt a b
  | .le => ordered m.text .le a b
  | .gt => ordered m.text .gt a b
  | .ge => ordered m.text .ge a b
  | .is => return a.same b
  | .isNot => return !a.same b
  | .isIn => isIn m a b
  | .isNotIn => return !(← isIn m a b)

mutual

/-- Bind a target to a value. -/
def assign (env : Env) (v : Value) : Expr → Action Unit
  | .name n => bindName env n v
  | .attribute e n => do setAttribute (← m.evaluate env e) n v
  | .subscript e i => do
    let o ← m.evaluate env e
    setItem m o (← m.evaluate env i) v
  | .star e => assign env v e
  | .at _ e => assign env v e
  | .tuple items => do
    let before := items.takeWhile fun e => !e.isStar
    let after := items.length - before.length - 1
    assignEach env (← unpack m before.length (before.length < items.length) after v) items
  | .list items => do
    let before := items.takeWhile fun e => !e.isStar
    let after := items.length - before.length - 1
    assignEach env (← unpack m before.length (before.length < items.length) after v) items
  | _ => unavailable "target"

/-- Bind each target to its value. -/
def assignEach (env : Env) (vs : List Value) : List Expr → Action Unit
  | [] => return ()
  | e :: es => do
    match vs with
    | v :: rest =>
      assign env v e
      assignEach env rest es
    | [] => return ()

end

/-- Take the value of a target away. -/
def delete (env : Env) : Expr → Action Unit
  | .name n => unbindName env n
  | .attribute e n => do deleteAttribute (← m.evaluate env e) n
  | .subscript e i => do
    let o ← m.evaluate env e
    deleteItem o (← m.evaluate env i)
  | .at _ e => delete env e
  | .tuple items => deleteEach env items
  | .list items => deleteEach env items
  | _ => unavailable "target"
where
  /-- Take the values of targets away. -/
  deleteEach (env : Env) : List Expr → Action Unit
    | [] => return ()
    | e :: es => do
      delete env e
      deleteEach env es

/-- The items of a list or tuple that is written out; starred ones give all of theirs. -/
def spreadItems (env : Env) : List Expr → Action (List Value)
  | [] => return []
  | e :: es => do
    match e.core with
    | .star inner =>
      let v ← m.evaluate env inner
      let items ← match ← iterator? v with
        | some it => drain m it
        | none =>
          typeError ("Value after * must be an iterable, not " ++ (← typeName v))
      return items ++ (← spreadItems env es)
    | _ => do
      let v ← m.evaluate env e
      return v :: (← spreadItems env es)

/-- How a function is named in reports about its arguments. -/
def shownFunction (f : Value) : Action String := do
  match ← object? f with
  | some (.function g) => return g.qualifiedName ++ "()"
  | _ =>
    match ← callableName f with
    | some n => return n ++ "()"
    | none => return (← typeName f) ++ " object"

/-- The arguments of a call. -/
def arguments (env : Env) (f : Value) : Arguments → List (Argument Expr) → Action Arguments
  | acc, [] => return acc
  | acc, .positional e :: rest => do
    let v ← m.evaluate env e
    arguments env f { acc with items := acc.items ++ [v] } rest
  | acc, .spread e :: rest => do
    let v ← m.evaluate env e
    let items ← match ← iterator? v with
      | some it => drain m it
      | none =>
        typeError ((← shownFunction f) ++ " argument after * must be an iterable, not " ++
          (← typeName v))
    arguments env f { acc with items := acc.items ++ items } rest
  | acc, .named n e :: rest => do
    let v ← m.evaluate env e
    arguments env f (← addNamed acc n v) rest
  | acc, .spreadNamed e :: rest => do
    let v ← m.evaluate env e
    match ← table? v with
    | none =>
      typeError ((← shownFunction f) ++ " argument after ** must be a mapping, not " ++
        (← typeName v))
    | some entries =>
      let acc ← entries.foldlM (fun (acc : Arguments) e => do
        match e.1.text? with
        | some n => addNamed acc n e.2
        | none => typeError "keywords must be strings") acc
      arguments env f acc rest
where
  /-- Add an argument by name. -/
  addNamed (acc : Arguments) (n : String) (v : Value) : Action Arguments := do
    if acc.named.any (·.1 == n) then
      typeError ((← shownFunction f) ++ " got multiple values for keyword argument '" ++ n ++ "'")
    else return { acc with named := acc.named ++ [(n, v)] }

/-- Whether each comparison of a chain holds; the chain ends at the first one that does not. -/
def comparisons (env : Env) (a : Value) : List (CompareOp × Expr) → Action Bool
  | [] => return true
  | (op, e) :: rest => do
    let b ← m.evaluate env e
    if ← compareValues m op a b then comparisons env b rest else return false

/-- The first operand with a truth value, or else the last one. -/
def firstWith (env : Env) (sought : Bool) : List Expr → Action Value
  | [] => return .bool (!sought)
  | [e] => m.evaluate env e
  | e :: es => do
    let v ← m.evaluate env e
    if (← truth v) == sought then return v else firstWith env sought es

/-- The entries of a table that is written out. -/
def entries (env : Env) (t : Table) : List (Entry Expr) → Action Table
  | [] => return t
  | .pair k e :: rest => do
    let key ← m.evaluate env k
    let v ← m.evaluate env e
    checkKey key
    entries env (t.insert key v) rest
  | .spread e :: rest => do
    let v ← m.evaluate env e
    match ← table? v with
    | some more => entries env (more.foldl (fun (t : Table) e => t.insert e.1 e.2) t) rest
    | none => typeError ("'" ++ (← typeName v) ++ "' object is not a mapping")

/-- Go through the clauses of a comprehension and do something for each item; `first` holds the items
of the first source. -/
def throughClauses (env : Env) (emit : Action Unit) (first : Option Ref) :
    List (Clause Expr) → Action Unit
  | [] => emit
  | c :: rest => do
    let it ← match first with
      | some it => pure it
      | none => iterate (← m.evaluate env c.source)
    m.repeatUntil (fun (_ : Unit) => do
      match ← advance m it with
      | none => return .error ()
      | some v =>
        assign m env v c.target
        if ← c.conditions.allM (fun e => do truth (← m.evaluate env e)) then
          throughClauses env emit none rest
        return .ok ()) ()

/-- A frame for the targets of a comprehension, and the items of its first source. -/
def comprehensionFrame (env : Env) (name : String) (clauses : List (Clause Expr)) :
    Action (Env × Option Ref) := do
  let first ← match clauses with
    | c :: _ => some <$> (do iterate (← m.evaluate env c.source) : Action Ref)
    | [] => pure none
  let frame ← alloc (.frame { names := clauses.flatMap fun c => c.target.targetNames })
  return ({ env with frames := frame :: env.frames, path := env.path ++ name ++ "." }, first)

/-- The values of a comprehension. -/
def comprehension (env : Env) (kind : Collection) (item : Expr) (clauses : List (Clause Expr)) :
    Action Value := do
  let name := match kind with
    | .list => "<listcomp>"
    | .set => "<setcomp>"
    | .generator => "<genexpr>"
  let (inner, first) ← comprehensionFrame m env name clauses
  let out ← alloc (.list #[])
  let emit : Action Unit := do
    let v ← m.evaluate inner item
    match ← load out with
    | .list items => store out (.list (items.push v))
    | _ => pure ()
  let items : Action (List Value) := return ((← list? (.ref out)).getD [])
  match kind with
  | .list =>
    throughClauses m inner emit first clauses
    return .ref out
  | .generator =>
    match ← attempt (throughClauses m inner emit first clauses) with
    | .ok _ => allocValue (.iterator (.values (← items) none))
    | .error (.raised r) => allocValue (.iterator (.values (← items) (some r.value)))
    | .error .exhausted => throw .exhausted
  | .set => unavailable "sets"

/-- The entries of a table comprehension. -/
def tableComprehension (env : Env) (key value : Expr) (clauses : List (Clause Expr)) : Action Value := do
  let (inner, first) ← comprehensionFrame m env "<dictcomp>" clauses
  let out ← alloc (.dict [])
  let emit : Action Unit := do
    let k ← m.evaluate inner key
    let v ← m.evaluate inner value
    setItem m (.ref out) k v
  throughClauses m inner emit first clauses
  return .ref out

/-- The text of a piece of a formatted text. -/
def partText (env : Env) : TextPart Expr → Action String
  | .text s => return s
  | .value e conversion format => do
    let v ← m.evaluate env e
    let text ← match conversion with
      | some 'r' => reprOf v
      | some 'a' => reprOf v
      | _ => m.text v
    match format with
    | none => return text
    | some f =>
      match ← m.evaluate env f with
      | .str "" => return text
      | _ => unavailable "format"

/-- A part of a slice. -/
def bound (env : Env) (e : Option Expr) : Action Value :=
  match e with
  | some e => m.evaluate env e
  | none => return .none

/-- The value of an expression. -/
def evaluateExpr (env : Env) (e : Expr) : Action Value := do
  match e with
  | .constant c => constantValue c
  | .name n => readName m env n
  | .list items => newList (← spreadItems m env items)
  | .tuple items => return .tuple (← spreadItems m env items)
  | .set _ => unavailable "sets"
  | .dict items => allocValue (.dict (← entries m env [] items))
  | .star _ => unavailable "star"
  | .attribute e n => m.attributeOf (← m.evaluate env e) n
  | .subscript e i =>
    let o ← m.evaluate env e
    item o (← m.evaluate env i)
  | .slice a b c => return .slice (← bound m env a) (← bound m env b) (← bound m env c)
  | .call f args =>
    let g ← m.evaluate env f
    m.call g (← arguments m env g {} args)
  | .unary op e => unary op (← m.evaluate env e)
  | .binary op a b =>
    let x ← m.evaluate env a
    operate m op x (← m.evaluate env b)
  | .compare first rest => return .bool (← comparisons m env (← m.evaluate env first) rest)
  | .conjunction items => firstWith m env false items
  | .disjunction items => firstWith m env true items
  | .conditional test yes no =>
    if ← truth (← m.evaluate env test) then m.evaluate env yes else m.evaluate env no
  | .lambda params body => makeFunction m env "<lambda>" params (.expression body)
  | .assign n e =>
    let v ← m.evaluate env e
    bindName env n v
    return v
  | .comprehension kind item clauses => comprehension m env kind item clauses
  | .dictComprehension k v clauses => tableComprehension m env k v clauses
  | .formatted parts => return .str (String.join (← parts.mapM (partText m env)))
  | .await _ => unavailable "await"
  | .yield _ => unavailable "yield"
  | .yieldFrom _ => unavailable "yield"
  | .at line e => onLine env line (m.evaluate env e)

end

end Stencil.Evaluation
