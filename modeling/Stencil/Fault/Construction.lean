import Stencil.Fault
import Stencil.Signature

/-!
# Constructing faults from arguments

Each class of faults takes its own arguments. A fault of the base class falls back to the code, message
and domain of its class; the other classes fix their domain and pass the rest on.
-/

namespace Stencil

namespace Fault

/-- An argument of a fault: a domain, a severity or a plain value. -/
inductive Argument where
  | domain (d : Domain)
  | severity (s : Severity)
  | value (v : Datum)
  deriving Inhabited

/-- What a class of faults supplies when an argument is left out. -/
structure Defaults where
  /-- The name of the class. -/
  className : String
  code : Option String := none
  message : Option String := none
  domain : Option Domain := none

/-- What a class with some attributes supplies. -/
def Defaults.ofAttributes (className : String) (attrs : List (String × Datum)) : Defaults :=
  let attr (n : String) : Option String :=
    ((attrs.find? (·.1 == n)).map (·.2)).bind fun d => if d matches .none then none else some d.text
  { className, code := attr "code", message := attr "message"
    domain := (attr "domain").map fun s => ⟨s, ""⟩ }

/-- Why a fault cannot be constructed. -/
inductive ConstructionError where
  | arguments (e : BindError)
  /-- Code, message or domain is neither given nor supplied by the class. -/
  | incomplete (className : String)
  /-- An argument that is passed on is given twice. -/
  | passedTwice (name : String)
  /-- The details are not a table. -/
  | detailsNotMapping (typeName : String)

/-- What is reported. -/
def ConstructionError.message : ConstructionError → String
  | arguments e => e.message
  | incomplete c => c ++ " missing required code, message, or domain"
  | passedTwice n =>
    "viewer.faults.domains.TemplateFault.__init__() got multiple values for keyword argument '" ++
      n ++ "'"
  | detailsNotMapping t => "'" ++ t ++ "' object is not a mapping"

namespace Argument

/-- The text of an argument; `none` for the absent value. -/
def text? : Argument → Option String
  | value .none => none
  | value v => some v.text
  | domain d => some d.name
  | severity s => some ("Severity." ++ s.name.toUpper)

/-- The text of an argument, with a word for the absent value. -/
def text (a : Argument) : String := a.text?.getD "None"

/-- The domain that an argument names. -/
def domain? : Argument → Option Domain
  | domain d => some d
  | value .none => none
  | a => some ⟨a.text, ""⟩

/-- The severity that an argument gives. -/
def severity? : Argument → Option Severity
  | severity s => some s
  | a => Severity.ofName? a.text

/-- The truth value that an argument gives. -/
def flag? : Argument → Option Bool
  | value .none => none
  | value (.bool b) => some b
  | _ => some true

/-- A line number. -/
def line? : Argument → Option Int
  | value (.int n) => some n
  | value (.bool b) => some (if b then 1 else 0)
  | _ => none

/-- The value of an argument; domains and severities by name. -/
def datum : Argument → Datum
  | value v => v
  | domain d => .str d.name
  | severity s => .str s.name

/-- Details that an argument gives; the absent value gives none. -/
def details : Argument → List (String × Datum)
  | value (.dict entries) => entries.map fun e => (e.1.text, e.2)
  | _ => []

/-- Details that have to be a table. -/
def mapping : Argument → Except ConstructionError (List (String × Datum))
  | value (.dict entries) => .ok (entries.map fun e => (e.1.text, e.2))
  | value v => .error (.detailsNotMapping v.typeName)
  | domain _ => .error (.detailsNotMapping "FaultDomain")
  | severity _ => .error (.detailsNotMapping "Severity")

end Argument

/-- The parameters of a class of faults. -/
def signature (kind : FaultKind) : Signature :=
  let name := kind.name ++ ".__init__"
  let optional (ns : List String) := ns.map fun n => (n, false)
  match kind with
  | .fault =>
    { name, positional := ["self", "code", "message"], required := 1
      named := optional ["domain", "severity", "retryable", "metadata"] }
  | .config | .view =>
    { name, positional := ["self", "code", "message"], required := 3
      named := optional ["severity", "metadata"] }
  | .template =>
    { name, positional := ["self", "code", "message"], required := 3
      named := optional ["template", "line", "severity", "metadata"] }
  | .configInvalid =>
    { name, positional := ["self", "key", "reason"], required := 3, namedRest := true }
  | .directiveSyntax =>
    { name, positional := ["self", "indicator", "directive"], required := 3, namedRest := true }
  | .codeSyntax => { name, positional := ["self", "reason", "code"], required := 3, namedRest := true }
  | .evaluation => { name, positional := ["self", "error", "code"], required := 3, namedRest := true }
  | .exposure => { name, positional := ["self", "name", "owner"], required := 3, namedRest := true }
  | .templateUnconfigured =>
    { name, positional := ["self", "view"], required := 2, namedRest := true }

/-- The arguments that a class of template faults passes on itself. -/
def fixedNames : FaultKind → List String
  | .directiveSyntax | .codeSyntax => ["code", "message", "severity", "metadata"]
  | .evaluation | .exposure => ["code", "message", "metadata"]
  | _ => []

/-- The arguments passed on to a template fault, matched with its parameters. -/
def passOn (kind : FaultKind) (named : List (String × Argument)) :
    Except ConstructionError (Bound Argument) :=
  match named.find? fun n => (fixedNames kind).contains n.1 with
  | some n => .error (.passedTwice n.1)
  | none =>
    let self := Argument.value .none
    match (signature .template).bind [self, self, self] named with
    | .ok b => .ok b
    | .error e => .error (.arguments e)

/-- The place that matched arguments give. -/
def placeOf (b : Bound Argument) : Place :=
  { template := b.get? "template" >>= Argument.text?, line := b.get? "line" >>= Argument.line? }

/-- The fault of a class with the given arguments. -/
def construct (kind : FaultKind) (defaults : Defaults) (args : List Argument)
    (named : List (String × Argument)) : Except ConstructionError Fault := do
  let b ← match (signature kind).bind (Argument.value .none :: args) named with
    | .ok b => Except.ok b
    | .error e => Except.error (ConstructionError.arguments e)
  let text (n : String) : String := ((b.get? n).map Argument.text).getD ""
  let severity (d : Severity) : Severity := (b.get? "severity" >>= Argument.severity?).getD d
  let details : List (String × Datum) := ((b.get? "metadata").map Argument.details).getD []
  let given (ns : List String) : List (String × Datum) :=
    ns.filterMap fun n => (b.get? n).map fun a => (n, a.datum)
  let own (n : String) (fallback : Option String) : Except ConstructionError String :=
    match (b.get? n >>= Argument.text?) <|> fallback with
    | some s => .ok s
    | none => .error (.incomplete defaults.className)
  match kind with
  | .fault =>
    let code ← own "code" defaults.code
    let message ← own "message" defaults.message
    match (b.get? "domain" >>= Argument.domain?) <|> defaults.domain with
    | some domain =>
      return { kind, code, message, domain, severity := severity domain.preset.severity
               retryable := (b.get? "retryable" >>= Argument.flag?).getD domain.preset.retryable
               metadata := details }
    | none => throw (.incomplete defaults.className)
  | .config =>
    return { kind, code := ← own "code" defaults.code, message := ← own "message" defaults.message
             domain := .config, severity := severity .fatal, retryable := false, metadata := details }
  | .view =>
    return { kind, code := ← own "code" defaults.code, message := ← own "message" defaults.message
             domain := .view, severity := severity .error, retryable := false, metadata := details }
  | .template =>
    return ofTemplate kind (← own "code" defaults.code) (← own "message" defaults.message) (placeOf b)
      (severity .error) details
  | .configInvalid =>
    let more ← match b.extraNamed.find? (·.1 == "metadata") with
      | some m => m.2.mapping
      | none => pure []
    return configInvalid (text "key") (text "reason") (given ["key", "reason"] ++ more)
  | .templateUnconfigured =>
    let more ← match b.extraNamed.find? (·.1 == "metadata") with
      | some m => m.2.mapping
      | none => pure []
    return templateUnconfigured (text "view") (given ["view"] ++ more)
  | .directiveSyntax =>
    let p ← passOn kind b.extraNamed
    return directiveSyntax (text "indicator") (text "directive") (placeOf p)
  | .codeSyntax =>
    let p ← passOn kind b.extraNamed
    return codeSyntax (text "reason") (text "code") (placeOf p)
  | .evaluation =>
    let p ← passOn kind b.extraNamed
    return evaluation (text "error") (text "code") (placeOf p)
      ((p.get? "severity" >>= Argument.severity?).getD .error)
  | .exposure =>
    let p ← passOn kind b.extraNamed
    let f := exposureUndefined (text "name") (text "owner") (placeOf p)
      ((p.get? "severity" >>= Argument.severity?).getD .error)
    return { f with metadata := mergeDetails f.metadata (given ["name", "owner"]) }

end Fault

end Stencil
