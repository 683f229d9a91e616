import Stencil.Settings.Schema
import Stencil.Value

/-!
# View configuration

What a type of views renders with: the names of its template and layout, its theme and output format,
and the references to stylesheets and scripts that it always needs.
-/

namespace Stencil

/-- The configuration of a type of views. -/
structure ViewConfig where
  template : Value := .none
  theme : Value := .none
  layout : Value := .none
  outputFormat : Value := .none
  css : List Value := []
  js : List Value := []
  /-- Whether a layout is looked up at all. -/
  useLayout : Value := .bool true
  deriving Inhabited

namespace ViewConfig

/-- The names of the fields in order. -/
def fieldNames : List String :=
  ["template", "theme", "layout", "output_format", "css", "js", "use_layout"]

/-- The value of a field. -/
def get? (c : ViewConfig) : String → Option Value
  | "template" => some c.template
  | "theme" => some c.theme
  | "layout" => some c.layout
  | "output_format" => some c.outputFormat
  | "css" => some (.tuple c.css)
  | "js" => some (.tuple c.js)
  | "use_layout" => some c.useLayout
  | _ => none

/-- A configuration with another value of a field that holds no references. -/
def set (c : ViewConfig) (name : String) (v : Value) : ViewConfig :=
  match name with
  | "template" => { c with template := v }
  | "theme" => { c with theme := v }
  | "layout" => { c with layout := v }
  | "output_format" => { c with outputFormat := v }
  | "use_layout" => { c with useLayout := v }
  | _ => c

end ViewConfig

/-- The settings that rendering depends on, by name. -/
structure ViewerSettings where
  fields : List (String × Value)
  deriving Inhabited

namespace ViewerSettings

/-- The names of the settings in order. -/
def fieldNames : List String := Settings.viewerFields.map (·.name)

/-- The value of a setting. -/
def get (s : ViewerSettings) (name : String) : Value :=
  ((s.fields.find? (·.1 == name)).map (·.2)).getD .none

end ViewerSettings

end Stencil
