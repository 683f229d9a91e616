import Stencil.Fault.Domain

/-!
# Faults

A fault is a failure with a stable code, a message, a domain and details. The faults of the library are
built by the functions below, one for each cause, which also fix their wording. Faults of templates know
the template and the line at fault.
-/

namespace Stencil

/-- The classes of faults. -/
inductive FaultKind where
  | fault
  | config
  | configInvalid
  | template
  | directiveSyntax
  | codeSyntax
  | evaluation
  | exposure
  | view
  | templateUnconfigured
  deriving DecidableEq, Inhabited, Repr

namespace FaultKind

/-- The name of a class of faults. -/
def name : FaultKind → String
  | fault => "Fault"
  | config => "ConfigFault"
  | configInvalid => "ConfigInvalidFault"
  | template => "TemplateFault"
  | directiveSyntax => "DirectiveSyntaxFault"
  | codeSyntax => "CodeSyntaxFault"
  | evaluation => "EvaluationFault"
  | exposure => "ExposureFault"
  | view => "ViewFault"
  | templateUnconfigured => "TemplateUnconfiguredFault"

/-- The class that a class of faults specialises. -/
def parent? : FaultKind → Option FaultKind
  | fault => none
  | config => some fault
  | configInvalid => some config
  | template => some fault
  | directiveSyntax => some template
  | codeSyntax => some template
  | evaluation => some template
  | exposure => some template
  | view => some fault
  | templateUnconfigured => some view

/-- Every class of faults. -/
def all : List FaultKind :=
  [fault, config, configInvalid, template, directiveSyntax, codeSyntax, evaluation, exposure, view,
    templateUnconfigured]

/-- The class with a given name. -/
def ofName? (s : String) : Option FaultKind := all.find? (·.name == s)

/-- Whether faults of this class know a template and a line. -/
def hasPlace (k : FaultKind) : Bool := k == template || k.parent? == some template

end FaultKind

/-- A template and a line in it, as far as they are known. -/
structure Place where
  template : Option String := none
  line : Option Int := none
  deriving DecidableEq, Inhabited, Repr

/-- The place in the form `template:line`. -/
def Place.text (p : Place) : String :=
  let name := match p.template with
    | none => "<string>"
    | some "" => "<string>"
    | some t => t
  match p.line with
  | none => name
  | some n => name ++ ":" ++ Text.intText n

/-- The place as details of a fault. -/
def Place.details (p : Place) : List (String × Datum) :=
  [("template", match p.template with | some t => .str t | none => .none),
    ("line", match p.line with | some n => .int n | none => .none)]

/-- A structured failure. -/
structure Fault where
  kind : FaultKind
  /-- The stable identifier of the failure. -/
  code : String
  message : String
  domain : Domain
  severity : Severity
  retryable : Bool
  metadata : List (String × Datum)
  place : Place := {}
  deriving Inhabited

namespace Fault

/-- Details with one more entry; a name that is present keeps its place. -/
def setDetail (details : List (String × Datum)) (name : String) (value : Datum) :
    List (String × Datum) :=
  if details.any (·.1 == name) then
    details.map fun d => if d.1 == name then (name, value) else d
  else details ++ [(name, value)]

/-- Details updated by others. -/
def mergeDetails (details others : List (String × Datum)) : List (String × Datum) :=
  others.foldl (fun acc d => setDetail acc d.1 d.2) details

/-- A detail of a fault that is a text. -/
def textDetail (f : Fault) (name : String) : String :=
  match f.metadata.find? (·.1 == name) with
  | some (_, .str s) => s
  | _ => ""

/-- A fault of a template at a place. -/
def ofTemplate (kind : FaultKind) (code message : String) (place : Place) (severity : Severity)
    (details : List (String × Datum)) : Fault :=
  { kind, code, message, domain := .template, severity, retryable := false
    metadata := mergeDetails place.details details, place }

/-- A directive has an indicator without a meaning. -/
def directiveSyntax (indicator directive : String) (place : Place) : Fault :=
  ofTemplate .directiveSyntax "DIRECTIVE_SYNTAX"
    ("Unrecognized directive indicator " ++ Text.quoted indicator ++ " in " ++ Text.quoted directive)
    place .fatal [("indicator", .str indicator), ("directive", .str directive)]

/-- The code of a template does not form a program. -/
def codeSyntax (reason code : String) (place : Place) : Fault :=
  ofTemplate .codeSyntax "CODE_SYNTAX" (reason ++ " in " ++ Text.quoted (Text.strip code))
    place .fatal [("reason", .str reason), ("code", .str code)]

/-- The code of a template failed while it ran. -/
def evaluation (error code : String) (place : Place) (severity : Severity := .error) : Fault :=
  ofTemplate .evaluation "TEMPLATE_EVALUATION"
    (error ++ " (in " ++ Text.quoted (Text.strip code) ++ ")")
    place severity [("error", .str error), ("code", .str code)]

/-- A deferred expression stands in a text that is joined before it has a value. -/
def deferredUnresolved (code : String) (place : Place) : Fault :=
  ofTemplate .template "DEFERRED_UNRESOLVED"
    ("Deferred expression " ++ Text.quoted (Text.strip code) ++ " has not been resolved")
    place .error []

/-- An exposure has no block to compute it with. -/
def exposureUndefined (name owner : String) (place : Place := {}) (severity : Severity := .error) :
    Fault :=
  ofTemplate .exposure "EXPOSURE_UNDEFINED"
    ("Exposure '" ++ name ++ "' on " ++ owner ++ " has no block and no default block")
    place severity [("name", .str name), ("owner", .str owner)]

/-- A setting has a value that it cannot take. -/
def configInvalid (key reason : String) (details : List (String × Datum) := []) : Fault :=
  { kind := .configInvalid, code := "CONFIG_INVALID"
    message := "Setting '" ++ key ++ "' is invalid: " ++ reason
    domain := .config, severity := .fatal, retryable := false
    metadata := mergeDetails [("key", .str key), ("reason", .str reason)] details }

/-- A view has no template to render. -/
def templateUnconfigured (view : String) (details : List (String × Datum) := []) : Fault :=
  { kind := .templateUnconfigured, code := "TEMPLATE_UNCONFIGURED"
    message := "View " ++ view ++ " has no template configured"
    domain := .view, severity := .error, retryable := false
    metadata := mergeDetails [("view", .str view)] details }

/-- The text of a fault. -/
def text (f : Fault) : String :=
  if f.kind = .evaluation then "[" ++ f.code ++ "] " ++ f.place.text ++ ": " ++ f.message
  else "[" ++ f.code ++ "] " ++ f.message

/-- A fault as a table. -/
def record (f : Fault) : List (String × Datum) :=
  [("code", .str f.code), ("message", .str f.message), ("domain", .str f.domain.name),
    ("severity", .str f.severity.name), ("retryable", .bool f.retryable),
    ("metadata", .dict (f.metadata.map fun d => (.str d.1, d.2)))]

/-- A fault in the notation of its construction. -/
def repr (f : Fault) : String :=
  "Fault(code=" ++ Text.quoted f.code ++ ", domain=" ++ f.domain.name ++ ", severity=" ++
    f.severity.name ++ ")"

end Fault

end Stencil
