import Stencil.Exposure
import Stencil.Loader
import Stencil.View.Config

/-!
# The world

Everything that scripts can change or share: objects by reference, the classes of contexts, the files,
the log, and the bundle that the view which is rendering collects its assets in. A computation in the
world gives a value or stops; what it did to the world before it stopped stays.
-/

namespace Stencil

/-- What an iterator goes through. -/
inductive Iterator where
  /-- Values that are known, and what is raised after them. -/
  | values (rest : List Value) (failure : Option Value)
  /-- A list from an index on. -/
  | list (r : Ref) (next : Nat)
  /-- A list from an index down. -/
  | backward (r : Ref) (left : Nat)
  /-- The entries of a table that has a given size. -/
  | entries (r : Ref) (part : String) (next size : Nat)
  /-- The members of a set of assets that has a given size. -/
  | members (r : Ref) (next size : Nat)
  | range (next step : Int) (left : Nat)
  | enumerate (inner : Ref) (next : Int)
  | zip (inner : List Ref)
  /-- The output of a view, which is rendered when it is asked for. -/
  | rendering (view : Ref)
  | map (f : Value) (inner : List Ref)
  | filter (f : Value) (inner : Ref)
  deriving Inhabited

/-- What a function runs. -/
inductive FunctionBody where
  | block (b : Script.Block)
  | expression (e : Script.Expr)

instance : Inhabited FunctionBody := ⟨.block []⟩

/-- A function of a script. -/
structure Function where
  name : String
  /-- The name with those of the functions around it. -/
  qualifiedName : String
  params : List (Script.Parameter Script.Expr)
  /-- The values of the parameters that have a fallback. -/
  fallbacks : List (String × Value)
  body : FunctionBody
  /-- The names that are local to a call. -/
  locals : List String
  /-- The names that a call assigns globally. -/
  globalNames : List String
  globals : Ref
  /-- The frames around the function, the innermost first. -/
  frames : List Ref
  deriving Inhabited

/-- The local names of a call. -/
structure Frame where
  names : List String
  globalNames : List String := []
  values : List (String × Value) := []
  deriving Inhabited

/-- The global names of a run, and the object whose attributes stand in for names that are missing. -/
structure Namespace where
  values : List (String × Value) := []
  context : Option Value := none
  deriving Inhabited

/-- An exception or a fault. -/
structure ExceptionObject where
  type : TypeRef
  args : List Value := []
  /-- The text, when it is not that of the arguments. -/
  text : Option String := none
  /-- The details of a fault. -/
  fault : Option Fault := none
  cause : Option Value := none
  /-- The line of the template on which it was raised last. -/
  line : Option Nat := none
  deriving Inhabited

/-- A deferred expression that stands in an output. -/
structure Binding where
  templateName : String
  segment : Segment
  code : Script.Expr
  /-- The names as they were when the directive ran. -/
  globals : Ref
  value : Option String := none
  resolved : Bool := false
  deriving Inhabited

/-- A run of a template. -/
structure Run where
  template : Template
  context : Value
  hook : Option Value
  inner : Value
  fragment : Ref
  /-- Collects the deferred expressions. -/
  pass : Ref
  globals : Ref
  deriving Inhabited

/-- Objects. -/
inductive Object where
  | list (items : Array Value)
  | dict (entries : List (Value × Value))
  /-- The keys, values or entries of a table. -/
  | view (table : Ref) (part : String)
  | iterator (it : Iterator)
  | function (f : Function)
  | frame (f : Frame)
  | globals (n : Namespace)
  | exception (e : ExceptionObject)
  | instance (cls : Nat) (attrs : List (String × Value))
  | assets (kind : AssetKind) (refs : OrderedSet Value)
  | bundle (css js : Ref)
  | fragment (chunks : Array Value)
  | binding (b : Binding)
  | pass (bindings : Array Ref)
  | run (r : Run)
  | template (t : Template)
  | config (c : ViewConfig)
  | settings (s : ViewerSettings)
  | loader (l : Loader)
  | manager (loader : Ref) (encoding : String)
  | registry (r : ExposureRegistry Value)
  deriving Inhabited

/-- What an object is, whatever it holds: its constructor, with the class of an instance and the kind of
a set of assets. -/
def Object.shape (o : Object) : Nat × Nat :=
  match o with
  | .instance cls _ => (o.ctorIdx, cls)
  | .assets kind _ => (o.ctorIdx, kind.ctorIdx)
  | _ => (o.ctorIdx, 0)

/-- Where a class of contexts stands among the built-in ones. -/
inductive ContextKind where
  | basic
  | hooking
  | exposing
  | view
  deriving DecidableEq, Inhabited, Repr

/-- A class of contexts. -/
structure ContextClass where
  name : String
  kind : ContextKind
  /-- Whether the class is one of those that are always there. -/
  builtin : Bool := false
  base : Option Nat := none
  /-- The attributes of the class's own body, in order. -/
  attrs : List (String × Value) := []
  /-- The exposures of classes that have some. -/
  exposures : Option Ref := none
  deriving Inhabited

/-- The world. -/
structure World where
  objects : Array Object := #[]
  classes : Array ContextClass := #[]
  files : Files := {}
  /-- Messages with the name of their source, in order. -/
  log : Array (String × String) := #[]
  /-- The bundle of the view that is rendering. -/
  enclosing : Option Ref := none
  /-- The exceptions that are being handled, the latest first. -/
  handling : List Value := []
  deriving Inhabited

/-- An exception on its way, with the line of the template that it comes from once that is known. -/
structure Raised where
  value : Value
  line : Option Nat := none
  deriving Inhabited

/-- Why a computation stops without a value. -/
inductive Stop where
  | raised (r : Raised)
  /-- The computation took more steps than it was given. -/
  | exhausted
  deriving Inhabited

/-- A computation in the world. -/
abbrev Action := EStateM Stop World

namespace World

/-- A new object. -/
def alloc (o : Object) : Action Ref :=
  modifyGet fun w => (w.objects.size, { w with objects := w.objects.push o })

/-- A new object as a value. -/
def allocValue (o : Object) : Action Value := return .ref (← alloc o)

/-- The object at a reference. -/
def load (r : Ref) : Action Object := return (← get).objects.getD r default

/-- Put an object in the place of another one. An object never changes its type. -/
def store (r : Ref) (o : Object) : Action Unit :=
  modify fun w =>
    if (w.objects.getD r default).shape = o.shape then
      { w with objects := w.objects.setIfInBounds r o }
    else w

/-- The object that a value refers to. -/
def object? (v : Value) : Action (Option Object) := do
  match v with
  | .ref r => return some (← load r)
  | _ => return none

/-- Write a message to the log. -/
def logMessage (source message : String) : Action Unit :=
  modify fun w => { w with log := w.log.push (source, message) }

/-- Stop with an exception. -/
def raiseValue {α : Type} (v : Value) : Action α := throw (.raised { value := v })

/-- Stop with a new exception of a type. -/
def raise {α : Type} (type : String) (args : List Value) : Action α := do
  raiseValue (← allocValue (.exception { type := .exception type, args }))

/-- Stop with a new exception that has a message. -/
def raiseText {α : Type} (type message : String) : Action α := raise type [.str message]

/-- Stop because a value has the wrong type. -/
def typeError {α : Type} (message : String) : Action α := raiseText "TypeError" message

/-- Stop because a value is wrong. -/
def valueError {α : Type} (message : String) : Action α := raiseText "ValueError" message

/-- Stop with a fault. -/
def raiseFault {α : Type} (f : Fault) : Action α := do
  raiseValue (← allocValue (.exception { type := .fault f.kind, fault := some f }))

/-- A new list. -/
def newList (items : List Value) : Action Value := allocValue (.list items.toArray)

/-- The class with a place. -/
def classAt (id : Nat) : Action ContextClass := return (← get).classes.getD id default

/-- Put a class in the place of another one. -/
def setClass (id : Nat) (c : ContextClass) : Action Unit :=
  modify fun w => { w with classes := w.classes.setIfInBounds id c }

/-- A new class. -/
def addClass (c : ContextClass) : Action Nat :=
  modifyGet fun w => (w.classes.size, { w with classes := w.classes.push c })

/-- Run a computation and take what stops it as a value. -/
def attempt {α : Type} (x : Action α) : Action (Except Stop α) := fun w =>
  match x w with
  | .ok a w' => .ok (.ok a) w'
  | .error e w' => .ok (.error e) w'

/-- Go on with the outcome of a computation. -/
def resume {α : Type} : Except Stop α → Action α
  | .ok a => pure a
  | .error e => throw e

end World

end Stencil
