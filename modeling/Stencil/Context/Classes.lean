import Stencil.Rendering.Run

/-!
# Classes of contexts

The built-in classes and those that are derived from them. A class that is derived from one with
exposures starts from a copy of its registry; the blocks in its body are registered in it, and an
accessor is installed for each name that is not an attribute yet.
-/

namespace Stencil

open World Evaluation

/-- A block in the body of a class, and what it is registered with. -/
structure ExposedBlock where
  /-- The name of the attribute. -/
  attr : String
  block : Value
  /-- The name of the exposure. -/
  name : String
  description : Option String := none
  deriving Inhabited

/-- A block of an attribute. Without a name it is registered under that of the attribute, without a
description it is described by its documentation. -/
def ExposedBlock.ofAttribute (attr : String) (block : Value) (name description doc : Option String) :
    ExposedBlock :=
  let given (s : Option String) : Option String := s.filter (· != "")
  { attr, block, name := (given name).getD attr
    description := given description <|> given (doc.map Text.strip) }

/-- The configuration at a reference. -/
def configAt (v : Value) : Action ViewConfig := do
  match ← object? v with
  | some (.config c) => return c
  | _ => return {}

namespace ViewConfig

/-- References as a configuration holds them: each once, a text being one reference. -/
def references (m : Interpreter) (v : Value) : Action (List Value) := do
  match v, v.text? with
  | .none, _ => return []
  | v, some _ => return [v]
  | v, none =>
    let items ← collect m v
    items.forM checkKey
    return (OrderedSet.ofList items).toList

/-- A configuration with other values of some fields. -/
def replace (m : Interpreter) (c : ViewConfig) (changes : List (String × Value)) : Action ViewConfig := do
  match changes.find? fun a => !fieldNames.contains a.1 with
  | some a =>
    typeError ("ViewConfig.__init__() got an unexpected keyword argument '" ++ a.1 ++ "'")
  | none =>
    let refs (name : String) (now : List Value) : Action (List Value) :=
      match changes.find? (·.1 == name) with
      | some (_, v) => references m v
      | none => return now
    let changed := changes.foldl (fun (c : ViewConfig) a => c.set a.1 a.2) c
    let css ← refs "css" c.css
    let js ← refs "js" c.js
    return { changed with css, js }

/-- A configuration that needs the assets of another one too. -/
def mergeAssets (c other : ViewConfig) : ViewConfig :=
  { c with css := ((OrderedSet.ofList c.css).insertMany other.css).toList
           js := ((OrderedSet.ofList c.js).insertMany other.js).toList }

end ViewConfig

namespace ContextClass

/-- The place of the class of contexts without a hook. -/
def basic : Nat := 0

/-- The place of the class of contexts with a hook. -/
def hooking : Nat := 1

/-- The place of the class of contexts with exposures. -/
def exposing : Nat := 2

/-- The place of the class of views. -/
def view : Nat := 3

/-- The default values of the settings. -/
def defaultSettings : Action ViewerSettings := do
  return ⟨← Settings.viewerFields.mapM fun f => do return (f.name, ← ofDatum (f.default.getD .none))⟩

/-- Settings with some values and defaults for the others. -/
def settingsOf (fields : List (String × Value)) : Action Value := do
  match fields.find? fun f => !ViewerSettings.fieldNames.contains f.1 with
  | some f => typeError ("ViewerSettings.__init__() got an unexpected keyword argument '" ++ f.1 ++ "'")
  | none =>
    let s ← defaultSettings
    allocValue (.settings ⟨fields.foldl (fun acc f => setNamed acc f.1 f.2) s.fields⟩)

/-- Set up the built-in classes. -/
def setUp : Action Unit := do
  let noExposures ← alloc (.registry {})
  let tags (name description : String) : Exposure Value :=
    { name, block := some (.member name), description := some description }
  let registry ← alloc (.registry
    { entries :=
        [tags "css" "Stylesheet tags for the view and every view embedded in it",
          tags "js" "Script tags for the view and every view embedded in it"] })
  let config ← allocValue (.config {})
  let settings ← allocValue (.settings (← defaultSettings))
  let members (names : List String) : List (String × Value) := names.map fun n => (n, .member n)
  let viewAttrs : List (String × Value) :=
    [("config", config), ("settings", settings), ("loader", .none)] ++
      [("configure", .classMember "configure"), ("register", .member "register")] ++
      View.propertyNames.map (fun n => (n, .property n)) ++
      members ["templates_path_list", "_path_for", "hook", "_transition", "render", "_render", "stream"] ++
      [("css", .exposed "css"), ("js", .exposed "js")]
  modify fun w => { w with classes := #[
    { name := "BasicContext", kind := .basic, builtin := true },
    { name := "HookingContext", kind := .hooking, base := some basic, builtin := true
      attrs := members ["hook"] },
    { name := "Context", kind := .exposing, base := some basic, builtin := true
      attrs := ["expose", "describe", "default"].map fun n => (n, .classMember n)
      exposures := some noExposures },
    { name := "View", kind := .view, base := some exposing, builtin := true, attrs := viewAttrs
      exposures := some registry }] }

/-- The names that every class answers to, whatever attributes it has. -/
def commonNames : List String :=
  ["__annotations__", "__base__", "__bases__", "__basicsize__", "__call__", "__class__",
    "__delattr__", "__dict__", "__dictoffset__", "__dir__", "__doc__", "__eq__", "__flags__",
    "__format__", "__ge__", "__getattribute__", "__getstate__", "__gt__", "__hash__", "__init__",
    "__init_subclass__", "__instancecheck__", "__itemsize__", "__le__", "__lt__", "__module__",
    "__mro__", "__name__", "__ne__", "__new__", "__or__", "__prepare__", "__qualname__",
    "__reduce__", "__reduce_ex__", "__repr__", "__ror__", "__setattr__", "__sizeof__", "__str__",
    "__subclasscheck__", "__subclasses__", "__subclasshook__", "__text_signature__", "__weakref__",
    "__weakrefoffset__", "mro"]

/-- The names that an abstract class answers to besides. -/
def abstractNames : List String :=
  ["__abstractmethods__", "__slots__", "_abc_caches_clear", "_abc_impl", "_abc_registry_clear",
    "_dump_registry", "register"]

/-- The names that a class of a kind answers to, whatever attributes it has. -/
def builtinNames : ContextKind → List String
  | .basic | .exposing => commonNames
  | .hooking => commonNames ++ abstractNames
  | .view => commonNames ++ abstractNames ++ ["__iter__"]

/-- Whether a class has an attribute. -/
def hasOwnAttribute (id : Nat) (name : String) : Action Bool := do
  return (← classAttribute? id name).isSome || (name == "exposures" && (← registryOf? id).isSome) ||
    (builtinNames (← classAt id).kind).contains name

/-- Change the registry of a class. -/
def changeRegistry (id : Nat) (f : ExposureRegistry Value → ExposureRegistry Value) : Action Unit := do
  match ← registryOf? id with
  | some r => store r (.registry (f (← registryAt r)))
  | none => missingAttribute (.type (.context id)) "exposures"

/-- Set an attribute of a class. -/
def setClassAttribute (id : Nat) (name : String) (v : Value) : Action Unit :=
  setAttribute (.type (.context id)) name v

/-- Register a value and a block for a name, as far as they are present, and install an accessor if
the class has no attribute of that name. -/
def expose (id : Nat) (name : String) (value block : Option Value) : Action Unit := do
  changeRegistry id fun r => r.expose name value block
  if !(← hasOwnAttribute id name) then setClassAttribute id name (.exposed name)

/-- Describe an exposure. -/
def describe (id : Nat) (name : String) (text : Option String) : Action Unit :=
  changeRegistry id fun r => r.describe name text

/-- Set the block of all names without one. -/
def setDefault (id : Nat) (block : Option Value) : Action Unit :=
  changeRegistry id fun r => { r with default := block }

/-- Change fields of the configuration of a class of views. -/
def configure (m : Interpreter) (id : Nat) (changes : List (String × Value)) : Action Value := do
  let now ← configAt (← m.attributeOf (.type (.context id)) "config")
  let config ← allocValue (.config (← now.replace m changes))
  setClassAttribute id "config" config
  return config

/-- Make a class of views need the assets of another one. -/
def registerType (m : Interpreter) (id : Nat) (other : Value) : Action Value := do
  let self := Value.type (.context id)
  let now ← configAt (← m.attributeOf self "config")
  let more ← configAt (← m.attributeOf other "config")
  let config ← allocValue (.config (now.mergeAssets more))
  setClassAttribute id "config" config
  return config

/-- The attributes of a class that are accessors, in the order of their names, and what they access. -/
def accessors (id : Nat) : Action (List (String × String)) := do
  let own := (← classAt id).attrs.filterMap fun f => match f.2 with
    | .exposed n => some (f.1, n)
    | _ => none
  return own.mergeSort fun a b => !(b.1 < a.1)

/-- Register the blocks in the body of a class, in order. -/
def registerBlocks (id : Nat) : List ExposedBlock → Action Unit
  | [] => return ()
  | e :: rest => do
    let c ← classAt id
    setClass id { c with attrs := eraseNamed c.attrs e.attr }
    expose id e.name none (some e.block)
    if (e.description.getD "") != "" then describe id e.name e.description
    registerBlocks id rest

/-- A copy of the registry of a class, if it has one. -/
def deriveRegistry (id : Nat) : Action (Option Ref) := do
  match ← registryOf? id with
  | some r => return some (← alloc (.registry (← registryAt r)))
  | none => return none

/-- The attributes that a class has from its body: what is written there, then the blocks. An accessor
takes the name that it has in the body. -/
def bodyAttributes (attrs : List (String × Value)) (exposed : List ExposedBlock) :
    List (String × Value) :=
  let own := attrs.map fun a => match a.2 with
    | .exposed _ => (a.1, Value.exposed a.1)
    | v => (a.1, v)
  exposed.foldl (fun acc e => setNamed acc e.attr e.block) own

/-- The blocks in the body of a class, in the order of its attributes. -/
def bodyBlocks (attrs : List (String × Value)) (exposed : List ExposedBlock) : List ExposedBlock :=
  (bodyAttributes attrs exposed).filterMap fun a => exposed.reverse.find? (·.attr == a.1)

/-- Derive a class. -/
def define (m : Interpreter) (name : String) (base : Nat) (attrs : List (String × Value))
    (exposed : List ExposedBlock) (options : List (String × Value)) : Action Nat := do
  let b ← classAt base
  if b.kind != .view && !options.isEmpty then
    typeError (name ++ ".__init_subclass__() takes no keyword arguments")
  else
    let exposures ← deriveRegistry base
    let id ← addClass
      { name, kind := b.kind, base := some base, attrs := bodyAttributes attrs exposed, exposures }
    if exposures.isSome then registerBlocks id (bodyBlocks attrs exposed)
    if b.kind == .view && !options.isEmpty then
      let _ ← configure m id options
    return id

end ContextClass

end Stencil
