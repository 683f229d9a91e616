import Stencil.Settings.Kind

/-!
# Schemas of settings

A schema declares fields in order, each with a type and perhaps a default. Data fits a schema when every
field that is present can be taken and every other one has a default; the first field that fails is
reported. Data that no field is declared for does no harm.
-/

namespace Stencil.Settings

/-- Settings by their keys. -/
abbrev Table := List (Datum × Datum)

/-- A declared setting. -/
structure Field where
  name : String
  kind : Kind
  /-- The value when the setting is absent; without one it is required. -/
  default : Option Datum := none
  deriving Inhabited

/-- The values of declared settings, in order. -/
abbrev Values := List (String × Datum)

namespace Field

/-- The value of a field in some data. -/
def read (f : Field) (data : Table) : Except Fault Datum :=
  match Datum.lookup data (.str f.name), f.default with
  | some d, _ => coerce f.name f.kind d
  | none, some d => .ok d
  | none, none => .error (Fault.configInvalid f.name "required setting not provided")

end Field

/-- The values of the fields of a schema in some data. -/
def readFields (fields : List Field) (data : Table) : Except Fault Values :=
  fields.mapM fun f => (f.read data).map fun d => (f.name, d)

/-- The settings of a viewer. -/
def viewerFields : List Field :=
  [⟨"templates_root", .plain .text, some (.str "templates")⟩,
    ⟨"template_extension", .plain .text, some (.str "tpl")⟩,
    ⟨"default_layout", .plain .text, some (.str "layout")⟩,
    ⟨"default_format", .plain .text, some (.str "html")⟩,
    ⟨"encoding", .plain .text, some (.str "utf-8")⟩,
    ⟨"search_paths", .texts, some (.list [.str "."])⟩]

/-- What data is checked against: declared fields, or a type without any. -/
inductive Schema where
  | record (fields : List Field)
  | plain (p : Plain)
  deriving Inhabited

/-- Why settings cannot be given. -/
inductive SchemaError where
  | fault (f : Fault)
  /-- The schema declares no fields. -/
  | noFields (p : Plain)

/-- The values of settings under a schema. -/
def Schema.read (s : Schema) (data : Table) : Except SchemaError Values :=
  match s with
  | record fields => (readFields fields data).mapError .fault
  | plain p => .error (.noFields p)

/-- What is reported. -/
def SchemaError.message : SchemaError → String
  | fault f => f.text
  | noFields p => "<class '" ++ p.name ++ "'> is not a dataclass"

end Stencil.Settings
