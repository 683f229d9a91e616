import Stencil.Evaluation.Texts
import Stencil.Rendering.Bundle
import Stencil.View.Naming

/-!
# Attributes

Reading, setting and deleting attributes. On a context a computed attribute of its class comes first,
then the attributes of the object itself, then those of its class and of the classes above. An accessor
computes the exposure of its name from the registry of the object's own class, each time it is read.
-/

namespace Stencil.Evaluation

open World

/-- Stop because a value lacks an attribute. -/
def missingAttribute {α : Type} (v : Value) (name : String) : Action α := do
  match v with
  | .type t =>
    raiseText "AttributeError"
      ("type object '" ++ (← nameOfType t) ++ "' has no attribute '" ++ name ++ "'")
  | v =>
    raiseText "AttributeError"
      ("'" ++ (← typeName v) ++ "' object has no attribute '" ++ name ++ "'")

/-- An attribute of a class or of the nearest class above it that has one. -/
def classAttribute? (id : Nat) (name : String) : Action (Option Value) := do
  for c in ← chain id do
    match (← classAt c).attrs.find? (·.1 == name) with
    | some (_, v) => return some v
    | none => pure ()
  return none

/-- The registry of a class, or of the nearest class above it. -/
def registryOf? (id : Nat) : Action (Option Ref) := do
  for c in ← chain id do
    match (← classAt c).exposures with
    | some r => return some r
    | none => pure ()
  return none

/-- The contents of a registry. -/
def registryAt (r : Ref) : Action (ExposureRegistry Value) := do
  match ← load r with
  | .registry reg => return reg
  | _ => return {}

/-- What the exposure of a name gives on a context. -/
def exposedValue (m : Interpreter) (self : Value) (cls : Nat) (name : String) : Action Value := do
  match ← registryOf? cls with
  | none => missingAttribute (.type (.context cls)) "exposures"
  | some r =>
    let (value, block) := (← registryAt r).resolve Value.str name
    match block with
    | none => raiseFault (Fault.exposureUndefined name (← classAt cls).name)
    | some f => m.apply f [self, value]

/-- What an attribute of a class gives when it is read from a context. -/
def bindAttribute (m : Interpreter) (self : Value) (cls : Nat) (v : Value) : Action Value := do
  match v with
  | .exposed n => exposedValue m self cls n
  | .property n => View.property m self n
  | .member n => return .method self n
  | .classMember n => return .method (.type (.context cls)) n
  | .ref r =>
    match ← load r with
    | .function _ => return .bound self v
    | _ => return v
  | v => return v

/-- An attribute of a context. -/
def contextAttribute (m : Interpreter) (self : Value) (cls : Nat) (attrs : List (String × Value))
    (name : String) : Action Value := do
  match ← classAttribute? cls name with
  | some (.property n) => View.property m self n
  | fromClass =>
    match attrs.find? (·.1 == name) with
    | some (_, v) => return v
    | none =>
      match fromClass with
      | some v => bindAttribute m self cls v
      | none =>
        match name, ← registryOf? cls with
        | "exposures", some r => return .ref r
        | _, _ => missingAttribute self name

/-- The name of a callable value. -/
def callableName (v : Value) : Action (Option String) := do
  match v with
  | .type t => return some (← nameOfType t)
  | .builtin n => return some (((n.splitOn ".").getLast?).getD n)
  | .method self n =>
    match ← object? self with
    | some (.assets ..) => return some (if n == "register" then "update" else n)
    | _ => return some n
  | .member n => return some n
  | .classMember n => return some n
  | .helper f _ => return some f.name
  | .bound _ f =>
    match ← object? f with
    | some (.function g) => return some g.name
    | _ => return none
  | v =>
    match ← object? v with
    | some (.function g) => return some g.name
    | _ => return none

/-- An attribute of a class of contexts, read from the class itself. -/
def ownClassAttribute (cls : Nat) (name : String) : Action Value := do
  let self := Value.type (.context cls)
  match ← classAttribute? cls name with
  | some (.classMember n) => return .method self n
  | some (.member "register") => return .method self "register"
  | some v => return v
  | none =>
    match name, ← registryOf? cls with
    | "exposures", some r => return .ref r
    | _, _ => missingAttribute self name

/-- An attribute of a type. -/
def typeAttribute (t : TypeRef) (name : String) : Action Value := do
  match name, t with
  | "__name__", _ | "__qualname__", _ => return .str (← nameOfType t)
  | _, .context cls => ownClassAttribute cls name
  | _, .plain "str" =>
    if textMethodNames.contains name then return .builtin ("str." ++ name)
    else missingAttribute (.type t) name
  | _, .plain "list" =>
    if listMethodNames.contains name then return .builtin ("list." ++ name)
    else missingAttribute (.type t) name
  | _, .plain "dict" =>
    if tableMethodNames.contains name then return .builtin ("dict." ++ name)
    else missingAttribute (.type t) name
  | _, _ => missingAttribute (.type t) name

mutual

/-- Data as a value. -/
def ofDatum : Datum → Action Value
  | .none => return .none
  | .bool b => return .bool b
  | .int i => return .int i
  | .float x => return .float x
  | .str s => return .str s
  | .list items => do newList (← ofData items)
  | .tuple items => return .tuple (← ofData items)
  | .dict entries => do allocValue (.dict (← ofEntries entries))

/-- Several data as values. -/
def ofData : List Datum → Action (List Value)
  | [] => return []
  | d :: rest => return (← ofDatum d) :: (← ofData rest)

/-- Entries of data as entries of values. -/
def ofEntries : List (Datum × Datum) → Action Table
  | [] => return []
  | (k, v) :: rest => return (← ofDatum k, ← ofDatum v) :: (← ofEntries rest)

end

/-- An optional line as a value. -/
def lineValue : Option Int → Value
  | some n => .int n
  | none => .none

/-- An attribute of a fault. -/
def faultAttribute? (f : Fault) (name : String) : Action (Option Value) := do
  let detail (n : String) : Action (Option Value) := return some (.str (f.textDetail n))
  match name with
  | "code" => return some (.str f.code)
  | "message" => return some (.str f.message)
  | "domain" => return some (.domain f.domain)
  | "severity" => return some (.severity f.severity)
  | "retryable" => return some (.bool f.retryable)
  | "metadata" => return some (← ofDatum (.dict (f.metadata.map fun d => (.str d.1, d.2))))
  | "args" => return some (.tuple [.str f.message])
  | "template" =>
    return if f.kind.hasPlace then some ((f.place.template.map Value.str).getD .none) else none
  | "line" => return if f.kind.hasPlace then some (lineValue f.place.line) else none
  | "location" => return if f.kind.hasPlace then some (.str f.place.text) else none
  | "indicator" | "directive" => if f.kind = .directiveSyntax then detail name else return none
  | "reason" => if f.kind = .codeSyntax then detail name else return none
  | "error" => if f.kind = .evaluation then detail name else return none
  | "source_code" =>
    if f.kind = .evaluation || f.kind = .codeSyntax then detail "code" else return none
  | _ => return none

/-- An attribute of an exception. -/
def exceptionAttribute? (e : ExceptionObject) (name : String) : Action (Option Value) := do
  let first := e.args.headD .none
  match e.fault, name with
  | _, "__cause__" => return some (e.cause.getD .none)
  | some f, _ => faultAttribute? f name
  | none, "args" => return some (.tuple e.args)
  | none, "value" => return if e.type == .exception "StopIteration" then some first else none
  | none, "code" => return if e.type == .exception "SystemExit" then some first else none
  | none, "name" | none, "message" =>
    return if e.type == .exception "TemplateNotFound" then some first else none
  | _, _ => return none

/-- The methods of objects that are neither lists, tables nor contexts. -/
def objectMethodNames : Object → List String
  | .list _ => listMethodNames
  | .dict _ => tableMethodNames
  | .assets .. =>
    ["add", "clear", "copy", "discard", "isdisjoint", "pop", "register", "remove", "render", "tag",
      "update"]
  | .bundle .. => ["copy", "register", "render"]
  | .fragment _ => ["append", "append_value", "join"]
  | .binding _ => ["evaluate"]
  | .pass _ => ["register", "resolve"]
  | .template _ => ["execute", "render"]
  | .config _ => ["bundle", "merge_assets", "replace"]
  | .loader _ => ["exists", "list_templates", "load"]
  | .manager .. => ["lint", "lint_all", "list_templates"]
  | .registry _ => ["derive", "describe", "resolve"]
  | .exception e => if e.fault.isSome then ["to_dict"] else []
  | _ => []

/-- A data attribute of an object. -/
def objectAttribute? (o : Object) (name : String) : Action (Option Value) := do
  match o, name with
  | .function f, "__name__" => return some (.str f.name)
  | .function f, "__qualname__" => return some (.str f.qualifiedName)
  | .function _, "__doc__" => return some .none
  | .exception e, _ => exceptionAttribute? e name
  | .assets .., "separator" => return some (.str "\n")
  | .bundle css _, "css" => return some (.ref css)
  | .bundle _ js, "js" => return some (.ref js)
  | .fragment chunks, "chunks" => return some (← newList chunks.toList)
  | .fragment chunks, "bindings" =>
    let found ← chunks.toList.filterM fun c => do
      return (← object? c) matches some (.binding _)
    return some (← newList found)
  | .binding b, "value" => return some ((b.value.map Value.str).getD .none)
  | .binding b, "resolved" => return some (.bool b.resolved)
  | .pass bindings, "bindings" => return some (← newList (bindings.toList.map Value.ref))
  | .template t, "name" => return some (.str t.name)
  | .config c, _ => return c.get? name
  | .settings s, _ =>
    return if ViewerSettings.fieldNames.contains name then some (s.get name) else none
  | .loader l, "extensions" => return some (.tuple (l.extensions.map Value.str))
  | .manager l _, "loader" => return some (.ref l)
  | .manager _ e, "encoding" => return some (.str e)
  | .registry r, "default_block" => return some (r.default.getD .none)
  | _, _ => return none

/-- A data attribute of a value that is no object. -/
def plainAttribute? (v : Value) (name : String) : Option Value :=
  match v, name with
  | .stage s, "value" => some (.str s.name)
  | .stage s, "name" => some (.str s.name.toUpper)
  | .severity s, "value" => some (.str s.name)
  | .severity s, "name" => some (.str s.name.toUpper)
  | .domain d, "name" => some (.str d.name)
  | .domain d, "value" => some (.str d.name)
  | .domain d, "description" => some (.str d.description)
  | .int i, "real" => some (.int i)
  | .int i, "numerator" => some (.int i)
  | .int _, "imag" => some (.int 0)
  | .int _, "denominator" => some (.int 1)
  | .float x, "real" => some (.float x)
  | .range a _ _, "start" => some (.int a)
  | .range _ b _, "stop" => some (.int b)
  | .range _ _ c, "step" => some (.int c)
  | .slice a _ _, "start" => some a
  | .slice _ b _, "stop" => some b
  | .slice _ _ c, "step" => some c
  | .exposed n, "name" => some (.str n)
  | .bound s _, "__self__" => some s
  | .bound _ f, "__func__" => some f
  | .method s _, "__self__" => some s
  | _, _ => none

/-- The methods of a value that is no object. -/
def plainMethodNames : Value → List String
  | .str _ | .stage _ | .severity _ => textMethodNames
  | .tuple _ | .range .. => sequenceMethodNames
  | .int _ | .bool _ => ["bit_length"]
  | .float _ => ["is_integer"]
  | _ => []

/-- An attribute of a context, which also has its class and its own attributes as attributes unless its
class says otherwise. -/
def instanceAttribute (m : Interpreter) (self : Value) (cls : Nat) (attrs : List (String × Value))
    (name : String) : Action Value := do
  match (← classAttribute? cls name).isSome, name with
  | false, "__class__" => return .type (.context cls)
  | false, "__dict__" => allocValue (.dict (attrs.map fun a => (.str a.1, a.2)))
  | _, name => contextAttribute m self cls attrs name

/-- An attribute of a value. -/
def readAttribute (m : Interpreter) (v : Value) (name : String) : Action Value := do
  match name, v, ← object? v with
  | _, _, some (.instance cls attrs) => instanceAttribute m v cls attrs name
  | "__class__", _, _ => return .type (← typeOf v)
  | _, .type t, _ => typeAttribute t name
  | _, _, some o =>
    match ← objectAttribute? o name with
    | some x => return x
    | none =>
      if (objectMethodNames o).contains name then return .method v name
      else missingAttribute v name
  | "__name__", _, none =>
    match ← callableName v with
    | some n => return .str n
    | none => missingAttribute v name
  | _, _, none =>
    match plainAttribute? v name with
    | some x => return x
    | none =>
      if (plainMethodNames v).contains name then return .method v name
      else missingAttribute v name

/-- An attribute of a value; `none` when reading it reports that there is none. -/
def attribute? (m : Interpreter) (v : Value) (name : String) : Action (Option Value) := do
  match ← attempt (m.attributeOf v name) with
  | .ok x => return some x
  | .error (.raised r) =>
    if ← isInstance r.value (.exception "AttributeError") then return none
    else throw (.raised r)
  | .error .exhausted => throw .exhausted

/-- Whether a value has an attribute. -/
def hasAttribute (m : Interpreter) (v : Value) (name : String) : Action Bool := do
  return (← attribute? m v name).isSome

/-- Named values with one more; a name that is present keeps its place. -/
def setNamed (entries : List (String × Value)) (name : String) (v : Value) : List (String × Value) :=
  if entries.any (·.1 == name) then entries.map fun e => if e.1 == name then (name, v) else e
  else entries ++ [(name, v)]

/-- Named values without one. -/
def eraseNamed (entries : List (String × Value)) (name : String) : List (String × Value) :=
  entries.filter (·.1 != name)

/-- Stop because a computed attribute cannot be changed. -/
def refuseProperty {α : Type} (v : Value) (name lacking : String) : Action α := do
  raiseText "AttributeError"
    ("property '" ++ name ++ "' of '" ++ (← typeName v) ++ "' object has no " ++ lacking)

/-- Stop because an attribute of a value cannot be changed. -/
def refuseChange {α : Type} (v : Value) (name : String) : Action α := do
  let methods ← match ← object? v with
    | some o => pure (objectMethodNames o)
    | none => pure (plainMethodNames v)
  if methods.contains name then
    raiseText "AttributeError"
      ("'" ++ (← typeName v) ++ "' object attribute '" ++ name ++ "' is read-only")
  else missingAttribute v name

/-- Set an attribute of a value. -/
def setAttribute (v : Value) (name : String) (x : Value) : Action Unit := do
  match v, ← object? v with
  | .ref r, some (.instance cls attrs) =>
    match ← classAttribute? cls name with
    | some (.property n) => refuseProperty v n "setter"
    | _ => store r (.instance cls (setNamed attrs name x))
  | .type (.context cls), _ =>
    let c ← classAt cls
    setClass cls { c with attrs := setNamed c.attrs name x }
  | .ref r, some (.bundle css js) =>
    match name, x with
    | "css", .ref q => store r (.bundle q js)
    | "js", .ref q => store r (.bundle css q)
    | _, _ => refuseChange v name
  | .ref r, some (.settings s) => store r (.settings ⟨setNamed s.fields name x⟩)
  | _, some (.config _) =>
    raiseText "FrozenInstanceError" ("cannot assign to field '" ++ name ++ "'")
  | v, _ => refuseChange v name

/-- Delete an attribute of a value. -/
def deleteAttribute (v : Value) (name : String) : Action Unit := do
  match v, ← object? v with
  | .ref r, some (.instance cls attrs) =>
    match ← classAttribute? cls name with
    | some (.property n) => refuseProperty v n "deleter"
    | _ =>
      if attrs.any (·.1 == name) then store r (.instance cls (eraseNamed attrs name))
      else missingAttribute v name
  | .type (.context cls), _ =>
    let c ← classAt cls
    if c.attrs.any (·.1 == name) then setClass cls { c with attrs := eraseNamed c.attrs name }
    else missingAttribute v name
  | _, some (.config _) => raiseText "FrozenInstanceError" ("cannot delete field '" ++ name ++ "'")
  | v, _ => refuseChange v name

end Stencil.Evaluation
