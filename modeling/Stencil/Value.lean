import Stencil.Assets
import Stencil.Fault
import Stencil.Script.Syntax

/-!
# Values

What the scripts of templates compute with. Numbers, texts and tuples are values by themselves; things
that change or are shared are reached by reference.
-/

namespace Stencil

/-- The place of an object in the world. -/
abbrev Ref := Nat

/-- How far the render of a view has got. -/
inductive Stage where
  | idle
  | contentCompiling
  | contentExecuting
  | layoutCompiling
  | layoutExecuting
  | deferredResolution
  | done
  | failed
  deriving DecidableEq, Inhabited, Repr

namespace Stage

/-- The name of a stage. -/
def name : Stage → String
  | idle => "idle"
  | contentCompiling => "content_compiling"
  | contentExecuting => "content_executing"
  | layoutCompiling => "layout_compiling"
  | layoutExecuting => "layout_executing"
  | deferredResolution => "deferred_resolution"
  | done => "done"
  | failed => "failed"

end Stage

/-- Types of values. -/
inductive TypeRef where
  /-- A built-in type. -/
  | plain (name : String)
  | exception (name : String)
  | fault (kind : FaultKind)
  /-- A class of contexts by its place in the world. -/
  | context (id : Nat)
  | assets (kind : AssetKind)
  deriving DecidableEq, Inhabited, Repr

/-- The functions of a run of a template. -/
inductive RunFunction where
  /-- Write a value. -/
  | emit
  /-- Reserve the place of a deferred expression. -/
  | defer
  /-- The block that the template stands around. -/
  | content
  deriving DecidableEq, Inhabited, Repr

/-- The name of a function of a run. -/
def RunFunction.name : RunFunction → String
  | emit => "emit"
  | defer => "defer"
  | content => "content"

/-- Values. -/
inductive Value where
  | none
  | bool (b : Bool)
  | int (i : Int)
  | float (x : Float)
  | str (s : String)
  | tuple (items : List Value)
  | range (start stop step : Int)
  | slice (start stop step : Value)
  | ellipsis
  | notImplemented
  | type (t : TypeRef)
  /-- A built-in function. -/
  | builtin (name : String)
  /-- A method of a value's own type. -/
  | method (self : Value) (name : String)
  /-- A function that takes a value as its first argument. -/
  | bound (self function : Value)
  /-- A function of the run at a reference. -/
  | helper (f : RunFunction) (run : Ref)
  | stage (s : Stage)
  | domain (d : Domain)
  | severity (s : Severity)
  /-- An accessor that computes the exposure of a name. -/
  | exposed (name : String)
  /-- A computed attribute as it is seen on a class. -/
  | property (name : String)
  /-- A method as it is seen on a class. -/
  | member (name : String)
  /-- A method of the class itself. -/
  | classMember (name : String)
  /-- An object of the world. -/
  | ref (r : Ref)
  deriving Inhabited

namespace Value

/-- Whether two values are one and the same. -/
def same : Value → Value → Bool
  | none, none => true
  | bool a, bool b => a == b
  | int a, int b => a == b
  | float a, float b => a.toBits == b.toBits
  | str a, str b => a == b
  | tuple as, tuple bs => sameAll as bs
  | range a b c, range d e f => a == d && b == e && c == f
  | ellipsis, ellipsis => true
  | notImplemented, notImplemented => true
  | type a, type b => a == b
  | builtin a, builtin b => a == b
  | helper f r, helper g s => f == g && r == s
  | stage a, stage b => a == b
  | severity a, severity b => a == b
  | domain a, domain b => a.name == b.name && a.description == b.description
  | exposed a, exposed b => a == b
  | property a, property b => a == b
  | member a, member b => a == b
  | classMember a, classMember b => a == b
  | ref a, ref b => a == b
  | _, _ => false
where
  /-- Whether two lists hold the same values. -/
  sameAll : List Value → List Value → Bool
    | [], [] => true
    | a :: as, b :: bs => same a b && sameAll as bs
    | _, _ => false

/-- A number or truth value as an integer. -/
def integer? : Value → Option Int
  | int i => some i
  | bool b => some (if b then 1 else 0)
  | _ => Option.none

/-- A plain value as data. -/
def datum? : Value → Option Datum
  | none => some .none
  | bool b => some (.bool b)
  | int i => some (.int i)
  | float x => some (.float x)
  | str s => some (.str s)
  | stage s => some (.str s.name)
  | severity s => some (.str s.name)
  | _ => Option.none

end Value

end Stencil
