import Stencil.Evaluation.Attributes
import Stencil.Rendering.Deferred
import Stencil.Signature

/-!
# Running templates

A run evaluates the script of a template against a context and collects what it writes in a fragment.
Names that the template did not bind are read from the context. A context with a hook sees every value
before it is written. Rendering is a run followed by the resolution of its deferred expressions.
-/

namespace Stencil

open World Evaluation

/-- The context that a value stands for: the absent value is an empty one, a table gives the attributes,
and anything else is used as it is. -/
def asContext (v : Value) : Action Value := do
  match v, ← table? v with
  | .none, _ => allocValue (.instance 0 [])
  | _, some entries =>
    let attrs ← entries.mapM fun e => do
      match e.1.text? with
      | some s => return (s, e.2)
      | none => typeError "keywords must be strings"
    if attrs.any (·.1 == "self") then
      typeError "BasicContext.__init__() got multiple values for argument 'self'"
    else allocValue (.instance 0 attrs)
  | v, _ => return v

/-- Whether a value is a context with a hook. -/
def hasHook (v : Value) : Action Bool := do
  match ← object? v with
  | some (.instance cls _) =>
    let kind := (← classAt cls).kind
    return kind == .hooking || kind == .view
  | _ => return false

namespace Run

/-- The run at a reference. -/
def load (r : Ref) : Action Run := do
  match ← World.load r with
  | .run x => return x
  | _ => return default

/-- What the hook of the context makes of a value. -/
def hooked (m : Interpreter) (r : Run) (v : Value) : Action Value :=
  match r.hook with
  | some h => m.apply h [v]
  | none => return v

/-- Write a value, after the hook of the context has seen it. -/
def emit (m : Interpreter) (r : Run) (v : Value) : Action Unit := do
  Fragment.appendValue m r.fragment (← hooked m r v)

/-- The names of a run as they are now, apart from the run. -/
def snapshot (globals : Ref) : Action Ref := do
  match ← World.load globals with
  | .globals n => alloc (.globals n)
  | _ => alloc (.globals {})

/-- Put a deferred expression in the place of its future value. -/
def defer (r : Run) (index : Value) : Action Unit := do
  let segments := r.template.program.segments
  let i ← match index.integer? with
    | some i => pure i
    | none =>
      typeError ("tuple indices must be integers or slices, not " ++ (← typeName index))
  match (position? segments.length i).bind (segments[·]?) with
  | none => raiseText "IndexError" "tuple index out of range"
  | some segment =>
    match r.template.deferred.find? fun d => (d.1 : Int) == i with
    | none => missingKey index
    | some (_, code) =>
      let globals ← snapshot r.globals
      let b ← alloc (.binding { templateName := r.template.name, segment, code, globals })
      RenderPass.register r.pass b
      Fragment.append r.fragment (.ref b)

/-- The block that the template stands around. -/
def content (m : Interpreter) (r : Run) : Action Value := do
  if ← callable r.inner then m.apply r.inner []
  else
    match r.inner with
    | .none => return .str ""
    | v => return v

/-- The parameters of a function of a run. -/
def signature (f : RunFunction) : Signature :=
  let params := match f with
    | .emit => ["value"]
    | .defer => ["index"]
    | .content => []
  { name := "Template.execute.<locals>." ++ f.name, positional := params
    required := params.length }

/-- Call a function of a run. -/
def call (m : Interpreter) (f : RunFunction) (r : Ref) (args : Arguments) : Action Value := do
  match (signature f).bind args.items args.named with
  | .error e => typeError e.message
  | .ok b =>
    let run ← load r
    match f with
    | .emit =>
      emit m run ((b.get? "value").getD .none)
      return .none
    | .defer =>
      defer run ((b.get? "index").getD .none)
      return .none
    | .content => content m run

end Run

namespace Template

/-- The segment that an exception on its way is blamed on. -/
def blamed (t : Template) (r : Raised) : Segment :=
  segmentAt t.program.segments t.listing (r.line.map fun (n : Nat) => (n : Int))

/-- Begin a run of a template: its fragment, its names and its context. -/
def startRun (m : Interpreter) (t : Template) (context : Value) (pass : Option Ref) (inner : Value)
    (values : List (String × Value)) : Action Run := do
  let context ← asContext context
  let pass ← match pass with
    | some p => pure p
    | none => alloc (.pass #[])
  let fragment ← alloc (.fragment #[])
  let hook ← if ← hasHook context then some <$> m.attributeOf context "hook" else pure none
  let globals ← alloc (.globals {})
  let x : Run := { template := t, context, hook, inner, fragment, pass, globals }
  let run ← alloc (.run x)
  let names := values ++
    [("_tpl_write", .method (.ref fragment) "append"), ("_tpl_emit", .helper .emit run),
      ("_tpl_defer", .helper .defer run)]
  let first : List (String × Value) := [("self", context), ("content", .helper .content run)]
  store globals (.globals
    { values := names.foldl (fun acc n => setNamed acc n.1 n.2) first, context := some context })
  return x

/-- Run a template. -/
def execute (m : Interpreter) (t : Template) (context : Value) (pass : Option Ref) (inner : Value)
    (values : List (String × Value)) : Action Ref := do
  let run ← startRun m t context pass inner values
  let _ ← wrapping m t.name t.blamed (m.execute { globals := run.globals } t.script)
  return run.fragment

/-- Run a template and resolve its deferred expressions. -/
def render (m : Interpreter) (t : Template) (context inner : Value) (values : List (String × Value)) :
    Action String := do
  let pass ← alloc (.pass #[])
  let fragment ← execute m t context (some pass) inner values
  RenderPass.resolve m pass fragment

/-- The parameters of running a template. -/
def executeSignature : Signature :=
  { name := "Template.execute", positional := ["self", "context", "render_pass", "inner"]
    required := 1, namedRest := true }

/-- The parameters of rendering a template. -/
def renderSignature : Signature :=
  { name := "Template.render", positional := ["self", "context", "inner"], required := 1
    namedRest := true }

/-- Match arguments with a signature. -/
def matched (s : Signature) (args : Arguments) : Action (Bound Value) :=
  match s.bind args.items args.named with
  | .ok b => return b
  | .error e => typeError e.message

/-- Run a template with the arguments of a call. -/
def executeWith (m : Interpreter) (self : Value) (t : Template) (args : Arguments) : Action Value := do
  let b ← matched executeSignature { args with items := self :: args.items }
  let argument (n : String) : Value := (b.get? n).getD .none
  let pass := match argument "render_pass" with
    | .ref p => some p
    | _ => none
  return .ref (← execute m t (argument "context") pass (argument "inner") b.extraNamed)

/-- Render a template with the arguments of a call. -/
def renderWith (m : Interpreter) (self : Value) (t : Template) (args : Arguments) : Action String := do
  let b ← matched renderSignature { args with items := self :: args.items }
  let argument (n : String) : Value := (b.get? n).getD .none
  -- A value cannot have the name of a parameter of the run.
  let _ ← matched executeSignature { items := [self, .none, .none, .none], named := b.extraNamed }
  render m t (argument "context") (argument "inner") b.extraNamed

/-- Make a template ready, or stop with what is wrong with it. -/
def make (name source : String) : Action Template := do
  match compile name source with
  | .ok t =>
    logMessage "viewer.templates.engine"
      ("Compiled template " ++ name ++ ": " ++ Text.natText t.program.segments.length ++
        " segments, " ++ Text.natText t.deferred.length ++ " deferred")
    return t
  | .error e =>
    match e.fault? name with
    | some f => raiseFault f
    | none => valueError CompileError.nullMessage

end Template

end Stencil
