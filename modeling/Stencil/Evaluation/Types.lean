import Stencil.World

/-!
# Types at run time

The type of each value, the order of types, the truth of values, and what iterating, comparing and
calling report about a value of the wrong type.
-/

namespace Stencil

/-- The exceptions that an exception specialises, by name; a fault and an exception of the root have
none here. -/
def exceptionParents : String → List String
  | "Exception" | "SystemExit" | "KeyboardInterrupt" | "GeneratorExit" => ["BaseException"]
  | "ZeroDivisionError" | "OverflowError" | "FloatingPointError" => ["ArithmeticError"]
  | "IndexError" | "KeyError" => ["LookupError"]
  | "UnboundLocalError" => ["NameError"]
  | "ModuleNotFoundError" => ["ImportError"]
  | "NotImplementedError" | "RecursionError" => ["RuntimeError"]
  | "UnicodeError" => ["ValueError"]
  | "UnicodeDecodeError" | "UnicodeEncodeError" | "UnicodeTranslateError" => ["UnicodeError"]
  | "FileNotFoundError" | "FileExistsError" | "IsADirectoryError" | "NotADirectoryError"
  | "PermissionError" | "TimeoutError" | "ConnectionError" => ["OSError"]
  | "IndentationError" => ["SyntaxError"]
  | "TabError" => ["IndentationError"]
  | "DeprecationWarning" | "UserWarning" | "RuntimeWarning" | "SyntaxWarning" | "FutureWarning" =>
    ["Warning"]
  | "TemplateNotFound" => ["OSError", "LookupError", "TemplateError"]
  | "TemplateError" => ["Exception"]
  | "FrozenInstanceError" => ["AttributeError"]
  | "BaseException" => []
  | _ => ["Exception"]

/-- The exceptions that scripts can name. -/
def exceptionNames : List String :=
  ["BaseException", "Exception", "ArithmeticError", "AssertionError", "AttributeError", "BufferError",
    "EOFError", "FloatingPointError", "GeneratorExit", "ImportError", "ModuleNotFoundError",
    "IndexError", "KeyError", "KeyboardInterrupt", "LookupError", "MemoryError", "NameError",
    "NotImplementedError", "OSError", "OverflowError", "RecursionError", "ReferenceError",
    "RuntimeError", "StopIteration", "StopAsyncIteration", "SyntaxError", "IndentationError",
    "TabError", "SystemError", "SystemExit", "TypeError", "UnboundLocalError", "UnicodeError",
    "UnicodeDecodeError", "UnicodeEncodeError", "UnicodeTranslateError", "ValueError",
    "ZeroDivisionError", "FileNotFoundError", "FileExistsError", "IsADirectoryError",
    "NotADirectoryError", "PermissionError", "TimeoutError", "ConnectionError", "Warning",
    "DeprecationWarning", "UserWarning", "RuntimeWarning", "SyntaxWarning", "FutureWarning"]

/-- Whether an exception is of a type or specialises it. The chain of specialisations is short. -/
def exceptionIs (fuel : Nat) (name ancestor : String) : Bool :=
  match fuel with
  | 0 => false
  | fuel + 1 =>
    name == ancestor || (exceptionParents name).any fun p => exceptionIs fuel p ancestor

/-- Whether a class of faults is another one or specialises it. -/
def FaultKind.specialises (fuel : Nat) (k ancestor : FaultKind) : Bool :=
  match fuel with
  | 0 => false
  | fuel + 1 =>
    k == ancestor ||
      match k.parent? with
      | some p => p.specialises fuel ancestor
      | none => false

namespace Evaluation

open World

/-- The classes that a class of contexts specialises, from itself up. -/
def classChain (fuel : Nat) (id : Nat) : Action (List Nat) :=
  match fuel with
  | 0 => return []
  | fuel + 1 => do
    match (← classAt id).base with
    | some b => return id :: (← classChain fuel b)
    | none => return [id]

/-- The classes from a class up; each has a place of its own, so their number bounds the chain. -/
def chain (id : Nat) : Action (List Nat) := do classChain (← get).classes.size id

/-- The name of the type of an object. -/
def objectTypeName (o : Object) : Action String :=
  match o with
  | .list _ => return "list"
  | .dict _ => return "dict"
  | .view _ part => return "dict_" ++ part
  | .iterator it =>
    return match it with
    | .values .. => "generator"
    | .list .. => "list_iterator"
    | .backward .. => "list_reverseiterator"
    | .entries _ part _ _ =>
      if part == "keys" then "dict_keyiterator"
      else if part == "values" then "dict_valueiterator"
      else "dict_itemiterator"
    | .members .. => "dict_keyiterator"
    | .range .. => "range_iterator"
    | .enumerate .. => "enumerate"
    | .zip .. => "zip"
    | .map .. => "map"
    | .filter .. => "filter"
    | .rendering .. => "generator"
  | .function _ => return "function"
  | .exception e =>
    match e.type with
    | .exception n => return n
    | .fault k => return k.name
    | _ => return "Exception"
  | .instance cls _ => return (← classAt cls).name
  | .assets kind _ => return kind.setName
  | .bundle .. => return "AssetBundle"
  | .fragment _ => return "Fragment"
  | .binding _ => return "DeferredBinding"
  | .pass _ => return "RenderPass"
  | .template _ => return "Template"
  | .config _ => return "ViewConfig"
  | .settings _ => return "ViewerSettings"
  | .loader _ => return "TemplateLoader"
  | .manager .. => return "TemplateManager"
  | .registry _ => return "ExposureRegistry"
  | .frame _ => return "frame"
  | .globals _ => return "RenderNamespace"
  | .run _ => return "run"

/-- The type of a value. -/
def typeOf (v : Value) : Action TypeRef := do
  match v with
  | .none => return .plain "NoneType"
  | .bool _ => return .plain "bool"
  | .int _ => return .plain "int"
  | .float _ => return .plain "float"
  | .str _ => return .plain "str"
  | .tuple _ => return .plain "tuple"
  | .range .. => return .plain "range"
  | .slice .. => return .plain "slice"
  | .ellipsis => return .plain "ellipsis"
  | .notImplemented => return .plain "NotImplementedType"
  | .type (.assets _) => return .plain "ABCMeta"
  | .type (.context id) =>
    let kind := (← classAt id).kind
    return .plain (if kind == .hooking || kind == .view then "ABCMeta" else "type")
  | .type _ => return .plain "type"
  | .builtin _ => return .plain "builtin_function_or_method"
  | .method self _ =>
    match self with
    | .ref r =>
      match ← load r with
      | .list _ | .dict _ => return .plain "builtin_function_or_method"
      | _ => return .plain "method"
    | .type _ => return .plain "method"
    | _ => return .plain "builtin_function_or_method"
  | .bound .. => return .plain "method"
  | .helper .. => return .plain "function"
  | .stage _ => return .plain "RenderStage"
  | .domain _ => return .plain "FaultDomain"
  | .severity _ => return .plain "Severity"
  | .exposed _ => return .plain "Exposed"
  | .property _ => return .plain "property"
  | .member _ => return .plain "function"
  | .classMember _ => return .plain "method"
  | .ref r =>
    match ← load r with
    | .exception e => return e.type
    | .instance cls _ => return .context cls
    | .assets kind _ => return .assets kind
    | o => return .plain (← objectTypeName o)

/-- The name of a type. -/
def nameOfType : TypeRef → Action String
  | .plain n => return n
  | .exception n => return n
  | .fault k => return k.name
  | .context id => return (← classAt id).name
  | .assets k => return k.setName

/-- The name of the type of a value. -/
def typeName (v : Value) : Action String := do nameOfType (← typeOf v)

/-- Whether a type is another one or specialises it. -/
def isSubtype (t u : TypeRef) : Action Bool := do
  if t == u then return true
  match t, u with
  | _, .plain "object" => return true
  | .plain "bool", .plain "int" => return true
  | .plain "RenderStage", .plain "str" => return true
  | .plain "Severity", .plain "str" => return true
  | .exception a, .exception b => return exceptionIs 8 a b
  | .fault a, .fault b => return a.specialises 4 b
  | .fault _, .exception b => return exceptionIs 8 "Exception" b
  | .plain "ABCMeta", .plain "type" => return true
  | .context a, .context b =>
    if (← chain a).contains b then return true
    -- Views have a hook without specialising the class of contexts that have one.
    else return (← classAt a).kind == .view && (← classAt b).kind == .hooking && (← classAt b).builtin
  | .assets _, .assets .plain => return true
  | _, _ => return false

/-- Whether a value is of a type. -/
def isInstance (v : Value) (t : TypeRef) : Action Bool := do isSubtype (← typeOf v) t

/-- Whether a type is a type of exceptions. -/
def isExceptionType : TypeRef → Bool
  | .exception _ => true
  | .fault _ => true
  | _ => false

/-- The exception that a value is. -/
def exception? (v : Value) : Action (Option ExceptionObject) := do
  match ← object? v with
  | some (.exception e) => return some e
  | _ => return none

/-- The number of values of a range. -/
def rangeLength (start stop step : Int) : Nat :=
  if step > 0 then ((stop - start + step - 1).fdiv step).toNat
  else if step < 0 then ((start - stop - step - 1).fdiv (-step)).toNat
  else 0

/-- The number of items of a value that has some. -/
def length? (v : Value) : Action (Option Nat) := do
  match v with
  | .str s => return some s.length
  | .tuple items => return some items.length
  | .range a b c => return some (rangeLength a b c)
  | .stage s => return some s.name.length
  | .severity s => return some s.name.length
  | .ref r =>
    match ← load r with
    | .list items => return some items.size
    | .dict entries => return some entries.length
    | .view t _ =>
      match ← load t with
      | .dict entries => return some entries.length
      | _ => return none
    | .assets _ refs => return some refs.size
    | .registry r => return some r.entries.length
    | _ => return none
  | _ => return none

/-- The truth of a value: zero and what is empty are false. -/
def truth (v : Value) : Action Bool := do
  match v with
  | .none => return false
  | .bool b => return b
  | .int i => return i != 0
  | .float x => return x != 0
  | v =>
    match ← length? v with
    | some n => return n != 0
    | none => return true

/-- Whether a value can be called. -/
def callable (v : Value) : Action Bool := do
  match v with
  | .type _ | .builtin _ | .method .. | .bound .. | .helper .. | .member _ | .classMember _ =>
    return true
  | .ref r =>
    match ← load r with
    | .function _ => return true
    | _ => return false
  | _ => return false

end Evaluation

end Stencil
