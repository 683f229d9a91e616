import Stencil.Proofs.Rules.Templates

/-!
# Rules: scripts

Calls, expressions and statements. Whatever a script does, and however it ends, the world changes as
the rules allow.
-/

namespace Stencil

open World Evaluation Script Rule

variable {R : Rule} [R.Lawful] {home : Option Ref} (m : Interpreter) [R.Governs m]

instance abides_notCallable {α : Type} (v : Value) : Abides R home (notCallable v : Action α) := by
  unfold notCallable
  infer_instance

instance abides_isDisjoint (refs : OrderedSet Value) (other : Value) :
    Abides R home (isDisjoint m refs other) := by
  unfold isDisjoint
  infer_instance

instance abides_assetsMethod (r : Ref) (kind : AssetKind) (refs : OrderedSet Value)
    (name : String) (arg : Value) : Abides R home (assetsMethod m r kind refs name arg) := by
  unfold assetsMethod
  split <;> infer_instance

instance abides_issueValues (issues : List LintIssue) : Abides R home (issueValues issues) := by
  unfold issueValues
  infer_instance

instance abides_objectMethod (self : Value) (o : Object) (name : String) (args : Arguments) :
    Abides R home (objectMethod m self o name args) := by
  unfold objectMethod
  repeat' first | infer_instance | with_reducible refine Abides.bind ?_ fun _ => ?_ | split

instance abides_classMethod (self : Value) (id : Nat) (name : String) (args : Arguments) :
    Abides R home (classMethod m self id name args) := by
  unfold classMethod
  split <;> infer_instance

instance abides_callMethod (self : Value) (name : String) (args : Arguments) :
    Abides R home (callMethod m self name args) := by
  unfold callMethod
  repeat' first | infer_instance | with_reducible refine Abides.bind ?_ fun _ => ?_ | split

mutual

theorem abides_toDatum' (fuel : Nat) (v : Value) : Abides R home (toDatum fuel v) := by
  cases fuel with
  | zero => unfold toDatum; infer_instance
  | succ fuel =>
    have (vs : List Value) := abides_toData fuel vs
    unfold toDatum
    repeat' first | infer_instance | with_reducible refine Abides.bind ?_ fun _ => ?_ | split

theorem abides_toData (fuel : Nat) (vs : List Value) : Abides R home (toData fuel vs) := by
  cases fuel with
  | zero => unfold toData; infer_instance
  | succ fuel =>
    have (v : Value) := abides_toDatum' fuel v
    unfold toData
    infer_instance

end

instance abides_toDatum (fuel : Nat) (v : Value) : Abides R home (toDatum fuel v) :=
  abides_toDatum' fuel v

instance abides_faultArgument (v : Value) : Abides R home (faultArgument v) := by
  unfold faultArgument
  split <;> infer_instance

instance abides_makeFault (kind : FaultKind) (args : Arguments) :
    Abides R home (makeFault kind args) := by
  unfold makeFault
  repeat' first | infer_instance | with_reducible refine Abides.bind ?_ fun _ => ?_ | split

instance abides_construct (t : TypeRef) (args : Arguments) : Abides R home (construct m t args) := by
  unfold construct
  repeat' first | infer_instance | with_reducible refine Abides.bind ?_ fun _ => ?_ | split

/-- A function is run in the names it was defined in. -/
theorem abides_functionAt (f : Value) (args : Arguments) :
    Abides R home (do
      match ← object? f with
      | some (.function g) => callFunction m g args
      | _ => notCallable f) := by
  cases f with
  | ref r =>
    refine ⟨fun w hw => keeps_bind_of_ok (a := some (w.at' r)) rfl ?_⟩
    cases ho : w.at' r with
    | function g =>
      rcases Lawful.function hw.1 ho with h | h
      · exact (abides_callFunction m g args).within hw.1 h
      · exact (abides_callSilence m h args).abides w hw
    | _ => exact Abides.abides w hw
  | _ =>
    simp only [object?, pure_bind]
    infer_instance

instance abides_callValue (f : Value) (args : Arguments) : Abides R home (callValue m f args) := by
  unfold callValue
  split
  case h_7 => exact abides_functionAt m _ args
  all_goals repeat' first | infer_instance | split

instance abides_unavailable {α : Type} (what : String) :
    Abides R home (unavailable what : Action α) := by
  unfold unavailable
  infer_instance

instance abides_onLine {α : Type} (env : Env) [R.Homed env home] (line : Nat) (x : Action α)
    [Abides R home x] :
    Abides R home (onLine env line x) := by
  unfold onLine
  repeat' first | infer_instance | with_reducible refine Abides.bind ?_ fun _ => ?_ | split

instance abides_constantValue (x0 : Constant) : Abides R home (constantValue x0) := by
  unfold constantValue
  split <;> infer_instance

instance abides_operate (op : BinaryOp) (a b : Value) : Abides R home (operate m op a b) := by
  unfold operate
  infer_instance

instance abides_operateInPlace (op : BinaryOp) (a b : Value) :
    Abides R home (operateInPlace m op a b) := by
  unfold operateInPlace
  repeat' first | infer_instance | with_reducible refine Abides.bind ?_ fun _ => ?_ | split

instance abides_compareValues (op : CompareOp) (a b : Value) :
    Abides R home (compareValues m op a b) := by
  unfold compareValues
  split <;> infer_instance

mutual

theorem abides_assign' (m : Interpreter) [R.Governs m] (env : Env) [R.Homed env home] (v : Value) (e
    : Expr) :
    Abides R home (assign m env v e) := by
  unfold assign
  split
  case h_4 e => exact abides_assign' m env v e
  case h_5 e => exact abides_assign' m env v e
  case h_6 items => exact Abides.bind inferInstance fun vs => abides_assignEach m env vs items
  case h_7 items => exact Abides.bind inferInstance fun vs => abides_assignEach m env vs items
  all_goals infer_instance

theorem abides_assignEach (m : Interpreter) [R.Governs m] (env : Env) [R.Homed env home] (vs
    : List Value)
    (es : List Expr) : Abides R home (assignEach m env vs es) := by
  unfold assignEach
  split
  · infer_instance
  · split
    · exact (abides_assign' m env _ _).bind fun _ => abides_assignEach m env _ _
    · infer_instance

end

instance abides_assign (env : Env) [R.Homed env home] (v : Value) (e : Expr) :
    Abides R home (assign m env v e) := abides_assign' m env v e

mutual

theorem abides_delete' (m : Interpreter) [R.Governs m] (env : Env) [R.Homed env home] (e : Expr) :
    Abides R home (delete m env e) := by
  unfold delete
  split
  case h_4 e => exact abides_delete' m env e
  case h_5 items => exact abides_deleteEach m env items
  case h_6 items => exact abides_deleteEach m env items
  all_goals infer_instance

theorem abides_deleteEach (m : Interpreter) [R.Governs m] (env : Env) [R.Homed env home] (es
    : List Expr) :
    Abides R home (delete.deleteEach m env es) := by
  unfold delete.deleteEach
  split
  · infer_instance
  · exact (abides_delete' m env _).bind fun _ => abides_deleteEach m env _

end

instance abides_delete (env : Env) [R.Homed env home] (e : Expr) :
    Abides R home (delete m env e) := abides_delete' m env e

instance abides_spreadItems (env : Env) [R.Homed env home] (es : List Expr) : Abides R home
    (spreadItems m env es) := by
  induction es with
  | nil => unfold spreadItems; infer_instance
  | cons e es ih =>
    unfold spreadItems
    repeat' first | infer_instance | with_reducible refine Abides.bind ?_ fun _ => ?_ | split

instance abides_shownFunction (f : Value) : Abides R home (shownFunction f) := by
  unfold shownFunction
  repeat' first | infer_instance | with_reducible refine Abides.bind ?_ fun _ => ?_ | split

instance abides_addNamed (f : Value) (acc : Arguments) (n : String) (v : Value) :
    Abides R home (arguments.addNamed f acc n v) := by
  unfold arguments.addNamed
  infer_instance

instance abides_arguments (env : Env) [R.Homed env home] (f : Value) (acc : Arguments) (rest : List
    (Argument Expr))
    : Abides R home (arguments m env f acc rest) := by
  induction rest generalizing acc with
  | nil => unfold arguments; infer_instance
  | cons a rest ih =>
    cases a <;> unfold arguments <;>
      repeat' first
        | infer_instance
        | with_reducible refine Abides.bind ?_ fun _ => ?_
        | split
        | refine Abides.foldlM fun _ _ => ?_

instance abides_comparisons (env : Env) [R.Homed env home] (a : Value) (rest : List
    (CompareOp × Expr)) :
    Abides R home (comparisons m env a rest) := by
  induction rest generalizing a with
  | nil => unfold comparisons; infer_instance
  | cons c rest ih =>
    unfold comparisons
    repeat' first | infer_instance | with_reducible refine Abides.bind ?_ fun _ => ?_ | split

instance abides_firstWith (env : Env) [R.Homed env home] (sought : Bool) (es : List Expr) :
    Abides R home (firstWith m env sought es) := by
  induction es with
  | nil => unfold firstWith; infer_instance
  | cons e es ih => cases es <;> unfold firstWith <;> infer_instance

instance abides_entries (env : Env) [R.Homed env home] (t : Table) (rest : List (Entry Expr)) :
    Abides R home (entries m env t rest) := by
  induction rest generalizing t with
  | nil => unfold entries; infer_instance
  | cons e rest ih =>
    cases e <;> unfold entries <;>
      repeat' first | infer_instance | with_reducible refine Abides.bind ?_ fun _ => ?_ | split

instance abides_throughClauses (env : Env) [R.Homed env home] (emit : Action Unit) [Abides R home emit]
    (first : Option Ref) (clauses : List (Clause Expr)) :
    Abides R home (throughClauses m env emit first clauses) := by
  induction clauses generalizing first with
  | nil => unfold throughClauses; infer_instance
  | cons c rest ih =>
    unfold throughClauses
    repeat' first
      | infer_instance
      | with_reducible refine Abides.bind ?_ fun _ => ?_
      | split
      | refine Interpreter.abides_repeatUntil m fun _ => ?_

/-- What is done in the environment of a comprehension is done in the names around it. -/
theorem abides_comprehensionFrame_bind {α : Type} {env : Env} [R.Homed env home] {name : String}
    {clauses : List (Clause Expr)} {f : Env × Option Ref → Action α}
    (hf : ∀ frames path first, Abides R home (f (⟨env.globals, frames, path⟩, first))) :
    Abides R home (comprehensionFrame m env name clauses >>= f) := by
  unfold comprehensionFrame
  split <;> simp only [bind_assoc, pure_bind] <;>
    repeat' first
      | infer_instance
      | exact hf _ _ _
      | with_reducible refine Abides.bind ?_ fun _ => ?_

instance abides_comprehension (env : Env) [R.Homed env home] (kind : Collection) (item : Expr)
    (clauses : List (Clause Expr)) : Abides R home (comprehension m env kind item clauses) := by
  unfold comprehension
  refine abides_comprehensionFrame_bind m fun frames path first => ?_
  dsimp only
  repeat' first
    | infer_instance
    | with_reducible refine Abides.bind ?_ fun _ => ?_
    | split
    | refine @abides_attempt R home _ _ ?_
    | refine @abides_throughClauses R _ home m _ _ _ _ ?_ _ _

instance abides_tableComprehension (env : Env) [R.Homed env home] (key value : Expr)
    (clauses : List (Clause Expr)) : Abides R home (tableComprehension m env key value clauses) := by
  unfold tableComprehension
  refine abides_comprehensionFrame_bind m fun frames path first => ?_
  dsimp only
  infer_instance

instance abides_partText (env : Env) [R.Homed env home] (x0 : TextPart Expr) : Abides R home
    (partText m env x0) := by
  unfold partText
  repeat' first | infer_instance | with_reducible refine Abides.bind ?_ fun _ => ?_ | split

instance abides_bound (env : Env) [R.Homed env home] (e : Option Expr) : Abides R home
    (bound m env e) := by
  unfold bound
  split <;> infer_instance

instance abides_evaluateExpr (env : Env) [R.Homed env home] (e : Expr) : Abides R home
    (evaluateExpr m env e) := by
  unfold evaluateExpr
  split <;> infer_instance

instance abides_evaluateSilence (env : Env) : Abides R home (evaluateExpr m env .silence) :=
  abides_pure _

instance abides_augment (env : Env) [R.Homed env home] (target : Expr) (op : BinaryOp) (e : Expr) :
    Abides R home (augment m env target op e) := by
  unfold augment
  split <;> infer_instance

instance abides_exceptionOf (v : Value) (report : String) :
    Abides R home (exceptionOf m v report) := by
  unfold exceptionOf
  repeat' first | infer_instance | with_reducible refine Abides.bind ?_ fun _ => ?_ | split

instance abides_raiseAgain (env : Env) [R.Homed env home] : Abides R home (raiseAgain env) := by
  unfold raiseAgain
  repeat' first | infer_instance | with_reducible refine Abides.bind ?_ fun _ => ?_ | split

/-- An exception may get another cause or line. -/
theorem abides_amendException {v : Value} {f : ExceptionObject → ExceptionObject}
    (hf : ∀ x : ExceptionObject, x.Evolves (f x)) : Abides R home (amendException v f) := by
  refine ⟨fun w hw => ?_⟩
  cases v with
  | ref r =>
    have hobject : object? (.ref r) w = .ok (some (w.at' r)) w := rfl
    unfold amendException exception?
    rw [bind_assoc, World.after, bind_of_ok hobject]
    cases hr : w.at' r with
    | exception x =>
      refine Lawful.put_self hw.1 (by simp) fun hs => ⟨hs.symm, ?_, ?_, ?_, ?_, ?_⟩
      all_goals rw [hr]
      · rintro ⟨⟩
      · exact List.prefix_rfl
      · exact List.prefix_rfl
      · rintro b ⟨⟩
      · rintro e ⟨⟩
        exact ⟨f x, rfl, hf x⟩
    | _ => exact keeps_refl hw.1
  | _ => exact keeps_refl hw.1

instance abides_raiseNew (env : Env) [R.Homed env home] (e : Expr) (cause : Option Expr) :
    Abides R home (raiseNew m env e cause) := by
  have hamend (v : Value) (cause : Option Value) :
      Abides R home (amendException v fun x => { x with cause }) :=
    abides_amendException fun _ => ⟨rfl, rfl, rfl, rfl⟩
  unfold raiseNew
  cases cause <;> simp only [Option.mapM_none, Option.mapM_some] <;>
    repeat' first | infer_instance | with_reducible refine Abides.bind ?_ fun _ => ?_ | split

instance abides_runWhile (env : Env) [R.Homed env home] (test : Expr) (body orElse : Block) :
    Abides R home (runWhile m env test body orElse) := by
  unfold runWhile
  repeat' first
    | infer_instance
    | with_reducible refine Abides.bind ?_ fun _ => ?_
    | split
    | refine Interpreter.abides_repeatUntil m fun _ => ?_

instance abides_runFor (env : Env) [R.Homed env home] (target source : Expr) (body orElse : Block) :
    Abides R home (runFor m env target source body orElse) := by
  unfold runFor
  repeat' first
    | infer_instance
    | with_reducible refine Abides.bind ?_ fun _ => ?_
    | split
    | refine Interpreter.abides_repeatUntil m fun _ => ?_

instance abides_handles (types e : Value) : Abides R home (handles types e) := by
  unfold handles
  repeat' first
    | infer_instance
    | with_reducible refine Abides.bind ?_ fun _ => ?_
    | split
    | refine Abides.mapM fun _ => ?_

instance abides_whileHandling {α : Type} (e : Value) (x : Action α) [hx : Abides R home x] :
    Abides R home (whileHandling e x) := by
  refine ⟨fun w hw => ?_⟩
  have hafter : w.after (whileHandling e x) =
      { ({ w with handling := e :: w.handling } : World).after x with handling := w.handling } := by
    change ({ w with handling := e :: w.handling } : World).after (attempt x >>= _) = _
    cases h : x { w with handling := e :: w.handling } with
    | ok a u => rw [after_bind_of_ok (attempt_of_ok h), after_of_ok h]; rfl
    | error e u => rw [after_bind_of_ok (attempt_of_error h), after_of_error h]; rfl
  rw [hafter]
  exact Lawful.handled (hx.abides _ (Lawful.handle hw))

instance abides_rememberLine (r : Raised) : Abides R home (rememberLine r) := by
  exact abides_amendException fun _ => ⟨rfl, rfl, rfl, rfl⟩

instance abides_runHandler (env : Env) [R.Homed env home] (name : Option String) (e : Value) (body
    : Block) :
    Abides R home (runHandler m env name e body) := by
  unfold runHandler
  split <;> infer_instance

instance abides_findHandler (env : Env) [R.Homed env home] (r : Raised) (handlers : List
    (Handler Stmt)) :
    Abides R home (findHandler m env r handlers) := by
  induction handlers with
  | nil => unfold findHandler; infer_instance
  | cons h rest ih =>
    unfold findHandler
    repeat' first | infer_instance | with_reducible refine Abides.bind ?_ fun _ => ?_ | split

instance abides_runProtected (env : Env) [R.Homed env home] (body : Block) (handlers : List
    (Handler Stmt))
    (orElse : Block) : Abides R home (runProtected m env body handlers orElse) := by
  unfold runProtected
  repeat' first | infer_instance | with_reducible refine Abides.bind ?_ fun _ => ?_ | split

instance abides_runFinally (env : Env) [R.Homed env home] (x : Action Flow) [Abides R home x]
    (finish : Block) :
    Abides R home (runFinally m env x finish) := by
  unfold runFinally
  repeat' first | infer_instance | with_reducible refine Abides.bind ?_ fun _ => ?_ | split

instance abides_defineFunction (env : Env) [R.Homed env home] (decorators : List Expr) (name : String)
    (params : List (Parameter Expr)) (result : Option Expr) (body : Block) :
    Abides R home (defineFunction m env decorators name params result body) := by
  unfold defineFunction
  split <;> infer_instance

instance abides_annotate (env : Env) [R.Homed env home] (target annotation : Expr) (value
    : Option Expr) :
    Abides R home (annotate m env target annotation value) := by
  unfold annotate
  repeat' first | infer_instance | with_reducible refine Abides.bind ?_ fun _ => ?_ | split

instance abides_executeStmt (env : Env) [R.Homed env home] (s : Stmt) : Abides R home
    (executeStmt m env s) := by
  unfold executeStmt
  repeat' first | infer_instance | with_reducible refine Abides.bind ?_ fun _ => ?_ | split

instance abides_executeBlock (env : Env) [R.Homed env home] (b : Block) : Abides R home
    (executeBlock m env b) := by
  induction b with
  | nil => unfold executeBlock; infer_instance
  | cons s rest ih =>
    unfold executeBlock
    repeat' first | infer_instance | with_reducible refine Abides.bind ?_ fun _ => ?_ | split

instance abides_exceptionText (e : ExceptionObject) : Abides R home (exceptionText m e) := by
  unfold exceptionText
  repeat' first | infer_instance | with_reducible refine Abides.bind ?_ fun _ => ?_ | split

instance abides_textOf (render : Value → Action String) [∀ v, Abides R home (render v)]
    (v : Value) : Abides R home (textOf m render v) := by
  unfold textOf
  repeat' first | infer_instance | with_reducible refine Abides.bind ?_ fun _ => ?_ | split

/-- Whatever is done with an interpreter, it abides by every rule. -/
instance interpreter_governs (R : Rule) [R.Lawful] (n : Nat) : R.Governs (interpreter n) := by
  induction n with
  | zero =>
    unfold interpreter Interpreter.spent
    constructor <;> intros <;> exact abides_throw _
  | succ n ih =>
    unfold interpreter
    constructor <;> intros <;> dsimp only <;> infer_instance

instance machine_governs (R : Rule) [R.Lawful] : R.Governs machine := interpreter_governs R maxLevels

end Stencil
