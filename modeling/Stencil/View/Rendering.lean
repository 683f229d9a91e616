import Stencil.Context.Classes
import Stencil.Rendering.Loading

/-!
# Rendering views

A view renders its content template and, when there is one, its layout around the content; deferred
expressions of both are resolved last. Each render starts with the assets of the configuration and of
everything registered on the view. A view that is rendered while another one renders gives its assets
to that one when it has finished.
-/

namespace Stencil.View

open World Evaluation

variable (m : Interpreter)

/-- Go on to a stage. -/
def transition (self : Value) (stage : Stage) : Action Unit := do
  let now ← m.attributeOf (← m.attributeOf self "stage") "value"
  logMessage "viewer.views"
    ((← typeName self) ++ ": " ++ (← m.text now) ++ " -> " ++ stage.name)
  setAttribute self "stage" (.stage stage)

/-- A fresh bundle of the assets of a view's configuration. -/
def configuredBundle (self : Value) : Action Value := do
  m.apply (← m.attributeOf (← m.attributeOf self "config") "bundle") []

/-- Call a method of an attribute. -/
def callIn (v : Value) (name : String) (args : List Value) : Action Value := do
  m.apply (← m.attributeOf v name) args

/-- Whether a value is a view. -/
def isView (v : Value) : Action Bool := do
  match ← object? v with
  | some (.instance cls _) => return (← classAt cls).kind == .view
  | _ => return false

/-- Take over the assets of a view that is embedded. -/
def hook (self v : Value) : Action Value := do
  if (← isView v) && !v.same self then
    let assets ← m.attributeOf self "_assets"
    let register ← m.attributeOf assets "register"
    let _ ← m.apply register [← m.attributeOf v "assets"]
  return v

/-- Make an instance need the assets of a class of views, a view or a bundle. -/
def register (self other : Value) : Action Value := do
  let bundle ← match other with
    | .type _ => configuredBundle m other
    | other => if ← isView other then m.attributeOf other "assets" else pure other
  let _ ← callIn m (← m.attributeOf self "_registered") "register" [bundle]
  callIn m (← m.attributeOf self "_assets") "register" [bundle]

/-- Whether a loader is asked for a file that it does not find. -/
def lacksFile (load path encoding : Value) : Action Bool := do
  match load, path.text?, encoding.text? with
  | .method loader "load", some path, some _ =>
    match ← object? loader with
    | some (.loader l) => return (l.find? (← get).files path).isNone
    | _ => return false
  | _, _, _ => return false

/-- Load the layout, if there is one at the path. A loader without the file is not asked for it, since the
exception that it has for this would go nowhere. -/
def loadLayout? (self encoding path : Value) : Action (Option Value) := do
  let load ← m.attributeOf (← m.attributeOf self "loader") "load"
  if ← lacksFile load path encoding then return none
  else return some (← m.apply load [path, encoding])

/-- Go on with the content alone, without a layout at the path. -/
def withoutLayout (self path : Value) (content : Ref) : Action Ref := do
  logMessage "viewer.views"
    ("No layout at " ++ (← m.text path) ++ ", rendering " ++ (← typeName self) ++ " without one")
  return content

/-- Wrap the content in the layout, if there is one at the path. -/
def wrapInLayout (self encoding path : Value) (pass content : Ref) : Action Ref := do
  transition m self .layoutCompiling
  match ← attempt (loadLayout? m self encoding path) with
  | .ok (some layout) =>
    transition m self .layoutExecuting
    match ← object? layout with
    | some (.template t) => Template.execute m t self (some pass) (.ref content) []
    | _ => missingAttribute layout "execute"
  | .ok none => withoutLayout m self path content
  | .error (.raised r) =>
    if ← isInstance r.value (.exception "TemplateNotFound") then withoutLayout m self path content
    else throw (.raised r)
  | .error .exhausted => throw .exhausted

/-- Load the content template. -/
def loadContent (self encoding : Value) : Action Value := do
  transition m self .contentCompiling
  let load ← m.attributeOf (← m.attributeOf self "loader") "load"
  m.apply load [← m.attributeOf self "template_path", encoding]

/-- Run the content template; its deferred expressions go to a pass. -/
def runContent (self encoding : Value) (pass : Ref) : Action Ref := do
  let template ← loadContent m self encoding
  transition m self .contentExecuting
  match ← object? template with
  | some (.template t) => Template.execute m t self (some pass) .none []
  | _ => missingAttribute template "execute"

/-- Run the layout around the content; without a layout the content is all there is. -/
def runLayout (self encoding : Value) (pass content : Ref) : Action Ref := do
  let path ← m.attributeOf self "layout_path"
  if ← truth path then wrapInLayout m self encoding path pass content else return content

/-- Render the content and the layout. -/
def renderStages (self encoding : Value) : Action String := do
  let pass ← alloc (.pass #[])
  let content ← runContent m self encoding pass
  let fragment ← runLayout m self encoding pass content
  transition m self .deferredResolution
  let output ← RenderPass.resolve m pass fragment
  transition m self .done
  return output

/-- Give the assets of a finished render to the one around it. -/
def giveAssets (enclosing : Option Ref) (bundle : Value) : Action Unit := do
  match enclosing with
  | some r =>
    if !bundle.same (.ref r) then
      let _ ← callIn m (.ref r) "register" [bundle]
  | none => return ()

/-- Begin a render: a view takes a fresh bundle of the assets of its configuration and of everything that
is registered on it. -/
def startBundle (self : Value) : Action Value := do
  setAttribute self "stage" (.stage .idle)
  let fresh ← configuredBundle m self
  let bundle ← callIn m fresh "register" [← m.attributeOf self "_registered"]
  setAttribute self "_assets" bundle
  return bundle

/-- Go through the stages of a render; an exception leaves the view failed. -/
def renderGuarded (self encoding : Value) : Action String := do
  match ← attempt (renderStages m self encoding) with
  | .ok output => return output
  | .error (.raised r) =>
    if ← isInstance r.value (.exception "Exception") then transition m self .failed
    throw (.raised r)
  | .error .exhausted => throw .exhausted

/-- Do something while another bundle, or none, is the one that renders give their assets to. -/
def enclosedBy {α : Type} (bundle : Option Ref) (x : Action α) : Action α := do
  let before := (← get).enclosing
  modify fun w => { w with enclosing := bundle }
  let outcome ← attempt x
  modify fun w => { w with enclosing := before }
  resume outcome

/-- The object that a value refers to. -/
def reference? : Value → Option Ref
  | .ref r => some r
  | _ => none

/-- The encoding that is asked for, or else that of the settings. -/
def encodingFor (self encoding : Value) : Action Value :=
  firstTrue [pure encoding, attributeIn m self "settings" "encoding"]

/-- Render a view. -/
def render (self encoding : Value) : Action String := do
  let encoding ← encodingFor m self encoding
  let enclosing := (← get).enclosing
  let bundle ← startBundle m self
  let output ← enclosedBy (reference? bundle) (renderGuarded m self encoding)
  giveAssets m enclosing bundle
  return output

/-- Render a view in an encoding as bytes, apart from renders that are going on. -/
def stream (self encoding : Value) : Action (List UInt8) := do
  let encoding ← encodingFor m self encoding
  let output ← enclosedBy none (render m self encoding)
  let name := (encoding.text?).getD "utf-8"
  match Encoding.ofName? name with
  | none => raiseText "LookupError" ("unknown encoding: " ++ name)
  | some e =>
    match e.encode output.toList with
    | some bytes => return bytes
    | none => raiseText "UnicodeEncodeError" ""

/-- The parameters of a method of a view; each has the absent value as its fallback from a place on. -/
def methodSignature (name : String) : Signature :=
  let take (params : List String) (required : Nat) : Signature :=
    { name := "View." ++ name, positional := "self" :: params, required := required + 1 }
  match name with
  | "hook" | "css" | "js" => take ["value"] 1
  | "register" => take ["other"] 1
  | "render" | "stream" => take ["encoding"] 0
  | "_render" => take ["encoding"] 1
  | "_transition" => take ["stage"] 1
  | "_path_for" => take ["name"] 1
  | _ => take [] 0

/-- Call a method of a view. -/
def method (self : Value) (name : String) (args : Arguments) : Action Value := do
  let b ← Template.matched (methodSignature name) { args with items := self :: args.items }
  let argument (n : String) : Value := (b.get? n).getD .none
  match name with
  | "hook" => hook m self (argument "value")
  | "css" | "js" => m.attributeOf (← m.attributeOf self "_assets") name
  | "register" => register m self (argument "other")
  | "render" => return .str (← render m self (argument "encoding"))
  | "_render" => return .str (← renderStages m self (argument "encoding"))
  | "_path_for" => pathFor m self (argument "name")
  | "_transition" =>
    match argument "stage" with
    | .stage s =>
      transition m self s
      return .none
    | v => missingAttribute v "value"
  | "templates_path_list" => newList (← templateDirectories m self)
  | _ => missingAttribute self name

/-- Give a new view its attributes, its settings, its loader and its stage. -/
def fillIn (cls : Nat) (args : Arguments) (self : Value) : Action Unit := do
  let b ← Template.matched
    { name := "View.__init__", positional := ["self", "template", "theme", "layout", "output_format"]
      required := 1, named := [("loader", false), ("settings", false)], namedRest := true }
    { args with items := self :: args.items }
  let argument (n : String) : Value := (b.get? n).getD .none
  let type := Value.type (.context cls)
  match self with
  | .ref r => store r (.instance cls b.extraNamed)
  | _ => pure ()
  for n in ["template", "theme", "layout", "output_format"] do
    setAttribute self ("_" ++ n) (argument n)
  setAttribute self "settings" (← firstTrue [pure (argument "settings"), m.attributeOf type "settings"])
  let loader ← firstTrue
    [pure (argument "loader"), m.attributeOf type "loader", do
      let paths ← attributeIn m self "settings" "search_paths"
      allocValue (.loader (← Loader.ofValue m paths []))]
  setAttribute self "loader" loader
  setAttribute self "stage" (.stage .idle)

/-- Give a new view its bundles: nothing is registered on it, and it has the assets of its
configuration. -/
def equip (self : Value) : Action Unit := do
  setAttribute self "_registered" (.ref (← Bundle.make m .none .none))
  setAttribute self "_assets" (← configuredBundle m self)

/-- Create a view. -/
def create (cls : Nat) (args : Arguments) : Action Value := do
  let self ← allocValue (.instance cls [])
  fillIn m cls args self
  equip m self
  return self

/-- Create a context of a class. -/
def createContext (cls : Nat) (args : Arguments) : Action Value := do
  match (← classAt cls).kind with
  | .view => create m cls args
  | _ =>
    let b ← Template.matched
      { name := "BasicContext.__init__", positional := ["self"], required := 1, namedRest := true }
      { args with items := .none :: args.items }
    allocValue (.instance cls b.extraNamed)

end Stencil.View
