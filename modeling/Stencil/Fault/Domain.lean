import Stencil.Datum

/-!
# Fault domains and severities

A domain names the area in which a fault happens. Domains are compared by name, and a domain counts as
equal to any value whose text is its name. Three domains are standard and decide the severity of a fault
that is given none.
-/

namespace Stencil

/-- How bad a fault is. -/
inductive Severity where
  | info
  | warn
  | error
  | fatal
  deriving DecidableEq, Inhabited, Repr

namespace Severity

/-- The name of a severity. -/
def name : Severity → String
  | info => "info"
  | warn => "warn"
  | error => "error"
  | fatal => "fatal"

/-- The severity with a given name. -/
def ofName? : String → Option Severity
  | "info" => some info
  | "warn" => some warn
  | "error" => some error
  | "fatal" => some fatal
  | _ => none

end Severity

/-- The area in which a fault happens. -/
structure Domain where
  name : String
  description : String := ""
  deriving Inhabited, Repr

namespace Domain

/-- Errors of settings. -/
def config : Domain := ⟨"config", "Settings errors"⟩

/-- Errors of templates. -/
def template : Domain := ⟨"template", "Template compilation and evaluation"⟩

/-- Errors of views. -/
def view : Domain := ⟨"view", "View composition errors"⟩

/-- A domain in the notation of its construction. -/
def repr (d : Domain) : String := "FaultDomain(name='" ++ d.name ++ "')"

/-- What a domain is compared with: another domain or a plain value. -/
inductive Operand where
  | domain (d : Domain)
  | value (v : Datum)

/-- The text of an operand. -/
def Operand.text : Operand → String
  | domain d => d.name
  | value v => v.text

/-- Whether a domain equals an operand: by name for domains, by text for anything else. -/
def equals (d : Domain) (o : Operand) : Bool := d.name == o.text

/-- What a value is hashed as: domains and texts by their characters, other values apart from them. -/
inductive HashKey where
  | characters (s : String)
  | other (v : Datum)

/-- The hash key of an operand. -/
def Operand.hashKey : Operand → HashKey
  | domain d => .characters d.name
  | value (.str s) => .characters s
  | value v => .other v

/-- Whether a domain and an operand hash alike. -/
def sameHash (d : Domain) (o : Operand) : Bool :=
  match o.hashKey with
  | .characters s => d.name == s
  | .other _ => false

/-- What a fault has that is given nothing else. -/
structure Preset where
  severity : Severity
  retryable : Bool
  deriving DecidableEq, Inhabited, Repr

/-- What the faults of the standard domains have. -/
def presets : List (Domain × Preset) :=
  [(config, ⟨.fatal, false⟩), (template, ⟨.error, false⟩), (view, ⟨.error, false⟩)]

/-- What the faults of a domain have; those of other domains are errors. -/
def preset (d : Domain) : Preset :=
  ((presets.find? fun e => e.1.equals (.domain d)).map (·.2)).getD ⟨.error, false⟩

end Domain

end Stencil
