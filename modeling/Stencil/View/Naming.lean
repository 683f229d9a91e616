import Stencil.Evaluation.Interpreter

/-!
# What a view renders with

The names of the template and the layout of a view, its theme and output format, and the paths these
give. An override on the view comes first, then the configuration of its type, then the settings.
-/

namespace Stencil.View

open World Evaluation

variable (m : Interpreter)

/-- An attribute of an attribute. -/
def attributeIn (v : Value) (first second : String) : Action Value := do
  m.attributeOf (← m.attributeOf v first) second

/-- The first value that counts as true, or else the last one. -/
def firstTrue : List (Action Value) → Action Value
  | [] => return .none
  | [x] => x
  | x :: rest => do
    let v ← x
    if ← truth v then return v else firstTrue rest

/-- The name of the content template. -/
def template (self : Value) : Action Value := do
  let v ← firstTrue [m.attributeOf self "_template", attributeIn m self "config" "template"]
  if ← truth v then return v
  else raiseFault (Fault.templateUnconfigured (← typeName self))

/-- The theme directory. -/
def theme (self : Value) : Action Value :=
  firstTrue [m.attributeOf self "_theme", attributeIn m self "config" "theme"]

/-- The name of the layout; none when layouts are switched off. -/
def layout (self : Value) : Action Value := do
  if ← truth (← attributeIn m self "config" "use_layout") then
    firstTrue [m.attributeOf self "_layout", attributeIn m self "config" "layout",
      attributeIn m self "settings" "default_layout"]
  else return .none

/-- The output format. -/
def outputFormat (self : Value) : Action Value :=
  firstTrue [m.attributeOf self "_output_format", attributeIn m self "config" "output_format",
    attributeIn m self "settings" "default_format"]

/-- The directories that templates lie in. -/
def templateDirectories (self : Value) : Action (List Value) := do
  let parts := [← attributeIn m self "settings" "templates_root", ← m.attributeOf self "theme"]
  parts.filterM truth

/-- A path with one more part, which starts anew when it begins with a slash. -/
def joinPath (path part : String) : String :=
  if part.startsWith "/" then part
  else if path.isEmpty || path.endsWith "/" then path ++ part
  else path ++ "/" ++ part

/-- Parts of a path joined by slashes. -/
def joinParts (parts : List Value) : Action String := do
  match parts with
  | [] => return ""
  | first :: rest =>
    let start ← match first.text? with
      | some s => pure s
      | none =>
        typeError ("expected str, bytes or os.PathLike object, not " ++ (← typeName first))
    let texts ← rest.mapM fun v => do
      match v.text? with
      | some s => return s
      | none =>
        typeError ("join() argument must be str, bytes, or os.PathLike object, not '" ++
          (← typeName v) ++ "'")
    return texts.foldl joinPath start

/-- The directories as the method of a view lists them, or what stands in for the method; none when that
gives no list. The list that the method makes is read at once and needs no place of its own. -/
def listedDirectories (self : Value) : Action (Option (List Value)) := do
  match ← m.attributeOf self "templates_path_list" with
  | .method v "templates_path_list" => return some (← templateDirectories m v)
  | f => list? (← m.apply f [])

/-- The path of a template by its name. -/
def pathFor (self name : Value) : Action Value := do
  let file := (← m.text name) ++ "." ++ (← m.text (← m.attributeOf self "output_format")) ++ "." ++
    (← m.text (← attributeIn m self "settings" "template_extension"))
  match ← listedDirectories m self with
  | some parts => return .str (← joinParts (parts ++ [.str file]))
  | none => return .str file

/-- The path of the content template. -/
def templatePath (self : Value) : Action Value := do pathFor m self (← m.attributeOf self "template")

/-- The path of the layout; none without a layout. -/
def layoutPath (self : Value) : Action Value := do
  let name ← m.attributeOf self "layout"
  if ← truth name then pathFor m self name else return .none

/-- The names of the computed attributes. -/
def propertyNames : List String :=
  ["template", "theme", "layout", "output_format", "template_path", "layout_path", "assets"]

/-- A computed attribute of a view. -/
def property (self : Value) (name : String) : Action Value :=
  match name with
  | "template" => template m self
  | "theme" => theme m self
  | "layout" => layout m self
  | "output_format" => outputFormat m self
  | "template_path" => templatePath m self
  | "layout_path" => layoutPath m self
  | _ => m.attributeOf self "_assets"

end Stencil.View
