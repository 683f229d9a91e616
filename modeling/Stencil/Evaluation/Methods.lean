import Stencil.Evaluation.Builtins
import Stencil.Evaluation.Functions
import Stencil.Fault.Construction
import Stencil.View.Rendering

/-!
# Calls

Calling a value: functions, methods, types and the functions of a run.
-/

namespace Stencil.Evaluation

open World

/-- Stop because a value cannot be called. -/
def notCallable {α : Type} (v : Value) : Action α := do
  typeError ("'" ++ (← typeName v) ++ "' object is not callable")

/-- The parameters of a method of an object, apart from the object. -/
def methodParameters (o : Object) (name : String) : List String :=
  match o, name with
  | .assets .., "add" | .assets .., "discard" | .assets .., "tag" => ["ref"]
  | .assets .., "remove" => ["value"]
  | .assets .., "update" | .assets .., "register" => ["refs"]
  | .assets .., "isdisjoint" => ["other"]
  | .bundle .., "register" => ["other"]
  | .fragment _, "append" => ["chunk"]
  | .fragment _, "append_value" => ["value"]
  | .pass _, "register" => ["binding"]
  | .pass _, "resolve" => ["fragment"]
  | .config _, "merge_assets" => ["other"]
  | .manager .., "lint" => ["name"]
  | .registry _, "resolve" => ["name"]
  | _, _ => []

/-- A value that refers to an object, or a place where nothing is. -/
def refOf (v : Value) : Ref :=
  match v with
  | .ref r => r
  | _ => 0

/-- Whether a set and the items of a value have nothing in common. -/
def isDisjoint (m : Interpreter) (refs : OrderedSet Value) (other : Value) : Action Bool := do
  let found ← findItem m other fun x => do
    checkKey x
    return if refs.contains x then some () else none
  return found.isNone

/-- Call a method of a set of assets. -/
def assetsMethod (m : Interpreter) (r : Ref) (kind : AssetKind) (refs : OrderedSet Value)
    (name : String) (arg : Value) : Action Value := do
  let done (x : Action Unit) : Action Value := do
    x
    return .none
  match name with
  | "add" => done (AssetSet.add r arg)
  | "discard" => done (AssetSet.discard r arg)
  | "remove" =>
    checkKey arg
    if refs.contains arg then done (AssetSet.discard r arg) else missingKey arg
  | "pop" => AssetSet.pop r
  | "clear" => done (AssetSet.change r fun _ => {})
  | "update" | "register" =>
    AssetSet.update m r arg
    return .ref r
  | "copy" => allocValue (.assets kind refs)
  | "tag" => return .str (String.ofList (Assets.tag kind (← m.text arg).toList))
  | "render" => return .str (← AssetSet.render m r)
  | _ => return .bool (← isDisjoint m refs arg)

/-- The issues of templates as values. -/
def issueValues (issues : List LintIssue) : Action Value := newList (issues.map fun i => .str i.text)

/-- Call a method of an object that takes its arguments by position or by name. -/
def objectMethod (m : Interpreter) (self : Value) (o : Object) (name : String) (args : Arguments) :
    Action Value := do
  let params := methodParameters o name
  let owner ← typeName self
  let owner := match o with
    | .assets .. => if ["remove", "pop", "clear"].contains name then "MutableSet"
      else if name == "isdisjoint" then "Set" else "AssetSet"
    | _ => owner
  let shown := if name == "register" && owner == "AssetSet" then "update" else name
  let b ← Template.matched
    { name := owner ++ "." ++ shown, positional := "self" :: params, required := params.length + 1 }
    { args with items := self :: args.items }
  let arg := ((params.head?).bind b.get?).getD .none
  let r := refOf self
  match o, name with
  | .assets kind refs, _ => assetsMethod m r kind refs name arg
  | .bundle .., "register" =>
    Bundle.register m r arg
    return self
  | .bundle css js, "copy" => return .ref (← Bundle.make m (.ref css) (.ref js))
  | .bundle .., _ => return .str (← Bundle.render m r)
  | .fragment _, "append" =>
    Fragment.append r arg
    return .none
  | .fragment _, "append_value" =>
    Fragment.appendValue m r arg
    return .none
  | .fragment _, _ => return .str (← Fragment.join r)
  | .binding _, _ => Binding.evaluate m r
  | .pass _, "register" =>
    RenderPass.register r (refOf arg)
    return .none
  | .pass _, _ => return .str (← RenderPass.resolve m r (refOf arg))
  | .config c, "bundle" => return .ref (← Bundle.make m (.tuple c.css) (.tuple c.js))
  | .config c, _ =>
    let css ← m.attributeOf arg "css"
    let js ← m.attributeOf arg "js"
    let other : ViewConfig :=
      { css := ← ViewConfig.references m css, js := ← ViewConfig.references m js }
    allocValue (.config (c.mergeAssets other))
  | .manager l e, "lint" => do
    let loader ← Loader.at' (.ref l)
    issueValues (← loader.lint e ((arg.text?).getD ""))
  | .manager l e, "lint_all" => do issueValues (← (← Loader.at' (.ref l)).lintAll e)
  | .manager l _, _ => do (← Loader.at' (.ref l)).method "list_templates" {}
  | .registry reg, "derive" => allocValue (.registry reg)
  | .registry reg, "describe" =>
    allocValue (.dict (reg.descriptions.map fun d => (.str d.1, (d.2.map Value.str).getD .none)))
  | .registry reg, _ =>
    let (v, block) := reg.resolve Value.str ((arg.text?).getD "")
    return .tuple [v, block.getD .none]
  | .exception e, _ =>
    match e.fault with
    | some f => ofDatum (.dict (f.record.map fun d => (.str d.1, d.2)))
    | none => notCallable self
  | _, _ => notCallable self

/-- Call a method of a class of contexts. -/
def classMethod (m : Interpreter) (self : Value) (id : Nat) (name : String) (args : Arguments) :
    Action Value := do
  let owner := if (← classAt id).kind == .view && (name == "configure" || name == "register")
    then "View" else "Context"
  let signature (params : List String) (required : Nat) : Signature :=
    { name := owner ++ "." ++ name, positional := "cls" :: params, required := required + 1
      namedRest := name == "configure" }
  let b ← Template.matched
    (match name with
      | "expose" => signature ["name", "value", "block"] 1
      | "describe" => signature ["name", "text"] 2
      | "default" => signature ["block"] 1
      | "register" => signature ["view"] 1
      | _ => signature [] 0)
    { args with items := self :: args.items }
  let argument (n : String) : Value := (b.get? n).getD .none
  let given (n : String) : Option Value :=
    match argument n with
    | .none => none
    | v => some v
  let exposedName := ((argument "name").text?).getD ""
  match name with
  | "expose" =>
    ContextClass.expose id exposedName (given "value") (given "block")
    return .none
  | "describe" =>
    ContextClass.describe id exposedName (argument "text").text?
    return .none
  | "default" =>
    ContextClass.setDefault id (given "block")
    return argument "block"
  | "register" => ContextClass.registerType m id (argument "view")
  | _ => ContextClass.configure m id b.extraNamed

/-- Call a method of a value. -/
def callMethod (m : Interpreter) (self : Value) (name : String) (args : Arguments) : Action Value := do
  match self, self.text? with
  | _, some s => textMethod m s name args
  | .tuple items, _ => sequenceMethod m "tuple" items name args
  | .range .., _ => sequenceMethod m "range" (← collect m self) name args
  | .int i, _ =>
    noArguments ("int." ++ name) args
    return .int (if i == 0 then 0 else i.natAbs.log2 + 1)
  | .bool b, _ => return .int (if b then 1 else 0)
  | .float x, _ => return .bool (!x.isNaN && !x.isInf && x.floor == x)
  | .type (.context id), _ => classMethod m self id name args
  | .ref r, _ =>
    match ← load r with
    | .list items => listMethod m r items name args
    | .dict entries => tableMethod m r entries name args
    | .instance .. => View.method m self name args
    | .template t =>
      if name == "render" then return .str (← Template.renderWith m self t args)
      else Template.executeWith m self t args
    | .config c =>
      if name == "replace" then
        if args.items.isEmpty then allocValue (.config (← c.replace m args.named))
        else
          typeError ("ViewConfig.replace() takes 1 positional argument but " ++
            Text.natText (args.items.length + 1) ++ " were given")
      else objectMethod m self (.config c) name args
    | .loader l => l.method name args
    | o => objectMethod m self o name args
  | _, _ => notCallable self

mutual

/-- A value as data, down to a depth. -/
def toDatum (fuel : Nat) (v : Value) : Action Datum :=
  match fuel with
  | 0 => tooDeep
  | fuel + 1 => do
    match v, v.datum? with
    | _, some d => return d
    | .tuple items, _ => return .tuple (← toData fuel items)
    | v, _ =>
      match ← object? v with
      | some (.list items) => return .list (← toData fuel items.toList)
      | some (.dict entries) =>
        let keys ← toData fuel (entries.map (·.1))
        let values ← toData fuel (entries.map (·.2))
        return .dict (keys.zip values)
      | _ => return .str (← reprOf v)

/-- Several values as data. -/
def toData (fuel : Nat) (vs : List Value) : Action (List Datum) :=
  match fuel with
  | 0 => tooDeep
  | fuel + 1 => vs.mapM (toDatum fuel)

end

/-- A value as an argument of a fault. -/
def faultArgument (v : Value) : Action Fault.Argument := do
  match v with
  | .domain d => return .domain d
  | .severity s => return .severity s
  | v => return .value (← toDatum maxNesting v)

/-- Make a fault. -/
def makeFault (kind : FaultKind) (args : Arguments) : Action Value := do
  let items ← args.items.mapM faultArgument
  let named ← args.named.mapM fun a => do return (a.1, ← faultArgument a.2)
  match Fault.construct kind { className := kind.name } items named with
  | .ok f => allocValue (.exception { type := .fault kind, fault := some f })
  | .error e => typeError e.message

/-- Make a value of a type. -/
def construct (m : Interpreter) (t : TypeRef) (args : Arguments) : Action Value := do
  match t with
  | .plain "FaultDomain" =>
    match args.items with
    | v :: rest =>
      return .domain ⟨← m.text v, ← match rest with | d :: _ => m.text d | [] => pure ""⟩
    | [] => typeError "FaultDomain.__init__() missing 1 required positional argument: 'name'"
  | .plain name => makeBuiltin m name args
  | .exception name =>
    noNames name args
    allocValue (.exception { type := t, args := args.items })
  | .fault kind => makeFault kind args
  | .context id => View.createContext m id args
  | .assets kind =>
    let b ← Template.matched
      { name := "AssetSet.__init__", positional := ["self", "refs"], required := 1 }
      { args with items := .none :: args.items }
    return .ref (← AssetSet.make m kind ((b.get? "refs").getD .none))

/-- Call a value. -/
def callValue (m : Interpreter) (f : Value) (args : Arguments) : Action Value := do
  match f with
  | .type t => construct m t args
  | .builtin name => callBuiltin m name args
  | .method self name => callMethod m self name args
  | .bound self g => m.call g { args with items := self :: args.items }
  | .helper h r => Run.call m h r args
  | .member name =>
    match args.items with
    | self :: rest => View.method m self name { args with items := rest }
    | [] => typeError ("View." ++ name ++ "() missing 1 required positional argument: 'self'")
  | f =>
    match ← object? f with
    | some (.function g) => callFunction m g args
    | _ => notCallable f

end Stencil.Evaluation
