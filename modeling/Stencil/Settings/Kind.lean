import Stencil.Fault
import Stencil.Number.Reading

/-!
# Types of settings

The types that settings are declared with. A text for a setting of another type is read first: words for
truth values, numbers, and lists between colons. Then the value has to be of the type; values that are
not texts are taken as they are or refused.
-/

namespace Stencil.Settings

/-- A type without parameters. -/
inductive Plain where
  | text
  | whole
  | decimal
  | truth
  | table
  | list
  deriving DecidableEq, Inhabited, Repr

namespace Plain

/-- The name of a type. -/
def name : Plain → String
  | text => "str"
  | whole => "int"
  | decimal => "float"
  | truth => "bool"
  | table => "dict"
  | list => "list"

/-- Every type without parameters. -/
def all : List Plain := [text, whole, decimal, truth, table, list]

/-- Whether a value is of a type. Truth values are whole numbers too. -/
def has : Plain → Datum → Bool
  | text, .str _ => true
  | whole, .int _ => true
  | whole, .bool _ => true
  | decimal, .float _ => true
  | truth, .bool _ => true
  | table, .dict _ => true
  | list, .list _ => true
  | _, _ => false

end Plain

/-- A type of settings. -/
inductive Kind where
  | plain (p : Plain)
  /-- Lists with items of a type; without one, any items. `name` is how the type is written. -/
  | listOf (item : Option Plain) (name : String)
  /-- Anything, under the name of a type. -/
  | anything (name : String)
  deriving DecidableEq, Inhabited, Repr

namespace Kind

/-- The name of a type. -/
def name : Kind → String
  | plain p => p.name
  | listOf _ n => n
  | anything n => n

/-- Lists of texts. -/
def texts : Kind := .listOf (some .text) "typing.List[str]"

/-- The type with a given name. -/
def ofName? (s : String) : Option Kind :=
  match Plain.all.find? (·.name == s) with
  | some p => some (.plain p)
  | none =>
    match s with
    | "List" => some (.listOf none "typing.List")
    | "List[str]" => some texts
    | "List[int]" => some (.listOf (some .whole) "typing.List[int]")
    | "List[bool]" => some (.listOf (some .truth) "typing.List[bool]")
    | "list[str]" => some (.listOf (some .text) "list[str]")
    | "Optional[str]" => some (.anything "typing.Optional[str]")
    | _ => none

/-- Whether a value is of a type. -/
def has : Kind → Datum → Bool
  | plain p, d => p.has d
  | listOf none _, .list _ => true
  | listOf (some p) _, .list items => items.all p.has
  | listOf _ _, _ => false
  | anything _, _ => true

end Kind

/-- Why a value cannot be taken. -/
inductive Rejection where
  /-- A text is none of the words for truth values. -/
  | notTruth (s : String)
  /-- A text does not write a number of the type. -/
  | notNumber (kind : Plain) (s : String)
  /-- A value is not of the type. -/
  | mismatch (kind : Kind) (d : Datum)

/-- What is reported. -/
def Rejection.message : Rejection → String
  | notTruth s => "expected a boolean, got " ++ Text.quoted s
  | notNumber k s => "expected " ++ k.name ++ ", got " ++ Text.quoted s
  | mismatch k d => "expected " ++ k.name ++ ", got " ++ d.typeName

/-- The truth value that a word stands for, in letters of any case. -/
def readTruth? (s : String) : Option Bool :=
  let word := Text.lower s
  if ["1", "true", "yes", "on"].contains word then some true
  else if ["0", "false", "no", "off"].contains word then some false
  else none

/-- The parts of a text between colons that are not empty. -/
def readParts (s : String) : List String :=
  ((Text.cutAt ':' s.toList).filter (!·.isEmpty)).map String.ofList

/-- The value that a text stands for. Texts for tables and plain lists stay what they are. -/
def ofText (kind : Kind) (s : String) : Except Rejection Datum :=
  match kind with
  | .listOf _ _ => .ok (.list ((readParts s).map .str))
  | .plain .truth =>
    match readTruth? s with
    | some b => .ok (.bool b)
    | none => .error (.notTruth s)
  | .plain .whole =>
    match Number.readInt? s with
    | some i => .ok (.int i)
    | none => .error (.notNumber .whole s)
  | .plain .decimal =>
    match Number.readFloat? s with
    | some x => .ok (.float x)
    | none => .error (.notNumber .decimal s)
  | _ => .ok (.str s)

/-- A value that has to be of a type. -/
def check (kind : Kind) (d : Datum) : Except Rejection Datum :=
  if kind.has d then .ok d else .error (.mismatch kind d)

/-- A value as one of a type: texts are read first. -/
def take (kind : Kind) (d : Datum) : Except Rejection Datum :=
  match d with
  | .str s => ofText kind s >>= check kind
  | d => check kind d

/-- The same for the setting with a key, with a fault for a value that cannot be taken. -/
def coerce (key : String) (kind : Kind) (d : Datum) : Except Fault Datum :=
  (take kind d).mapError fun r => Fault.configInvalid key r.message

end Stencil.Settings
