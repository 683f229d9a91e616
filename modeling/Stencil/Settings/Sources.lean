import Stencil.Files.Wildcard
import Stencil.Json
import Stencil.Settings.Schema
import Stencil.Settings.Variables
import Stencil.Yaml

/-!
# Sources of settings

Settings come in layers: files named by patterns, a file of variables, the environment, and overrides.
A later layer wins over an earlier one. Variables count when their name begins with a given text and
they have a value; the rest of the name in lower case is the key.
-/

namespace Stencil.Settings

/-- How the documents of some sources are read. -/
structure Readers where
  yaml : String → Option Datum := Yaml.read?
  /-- The variables of a text; their values may refer to those of the environment. -/
  assignments : List Variable → String → List Variable := fun _ text => Variable.read text

instance : Inhabited Readers := ⟨{}⟩

/-- Where settings come from. -/
structure Sources where
  files : Files := {}
  readers : Readers := {}
  /-- Patterns for the paths of JSON and YAML files. -/
  patterns : List String := []
  /-- The beginning of the names of variables. -/
  lead : String := "VIEWER_"
  variableFile : Option String := none
  environment : List Variable := []
  overrides : Datum := .none
  deriving Inhabited

/-- Why settings cannot be loaded. -/
inductive LoadError where
  | directory (path : String)
  | undecodable
  | json
  | yaml
  /-- A source is no mapping. -/
  | fault (f : Fault)

/-- What is reported. -/
def LoadError.message : LoadError → String
  | directory path => "[Errno 21] Is a directory: " ++ Text.quoted path
  | undecodable => "a file is not written in UTF-8"
  | json => "a file is no JSON document"
  | yaml => "a file is no YAML document"
  | fault f => f.text

/-- Messages with the names of those who report them. -/
abbrev Log := List (String × String)

/-- Loading, which reports what it reads. -/
abbrev Loading := ExceptT LoadError (StateM Log)

/-- Report a message. -/
def report (message : String) : Loading Unit := modify (· ++ [("viewer.config", message)])

/-- A source that must be a mapping. -/
def mapping (source : String) (d : Datum) : Except LoadError Table :=
  match d with
  | .dict t => .ok t
  | _ => .error (.fault (Fault.configInvalid source "expected a mapping of settings"))

/-- Whether a value is nothing, false, zero or empty. -/
def isEmpty : Datum → Bool
  | .none => true
  | .bool b => !b
  | .int i => i == 0
  | .float x => x == 0
  | .str s => s == ""
  | .list xs => xs.isEmpty
  | .tuple xs => xs.isEmpty
  | .dict es => es.isEmpty

/-- The ending of a name from its last dot on, unless the dot begins or ends the name. -/
def ending (name : String) : String :=
  let pieces := Text.cutAt '.' name.toList
  let before := pieces.dropLast
  match pieces.getLast? with
  | some (c :: cs) => if before.all List.isEmpty && before.length ≤ 1 then "" else String.ofList ('.' :: c :: cs)
  | _ => ""

/-- The forms of files with settings. -/
inductive Format where
  | json
  | yaml
  deriving DecidableEq, Repr

/-- The form of a file by its name. -/
def Format.ofPath? (p : FilePath) : Option Format :=
  match ending (p.getLastD "") with
  | ".json" => some json
  | ".yaml" => some yaml
  | ".yml" => some yaml
  | _ => none

/-- The value that a file holds. An empty YAML document is an empty mapping. -/
def Format.read (f : Format) (r : Readers) (s : String) : Except LoadError Datum :=
  match f with
  | json =>
    match Json.read? s with
    | some d => .ok d
    | none => .error .json
  | yaml =>
    match r.yaml s with
    | some d => .ok (if isEmpty d then .dict [] else d)
    | none => .error .yaml

/-- The text of a file. -/
def textOf (f : File) : Except LoadError String :=
  match Encoding.utf8.decode f.data with
  | .ok cs => .ok (String.ofList (Encoding.unifyBreaks cs))
  | .error _ => .error .undecodable

/-- The settings in the file at a path; none when its name has another ending. -/
def readFile (r : Readers) (t : Files) (p : FilePath) : Except LoadError (Option Datum) :=
  match t.file? p, Format.ofPath? p with
  | none, _ => .error (.directory p.text)
  | some _, none => .ok none
  | some f, some format => do return some (← format.read r (← textOf f))

/-- The key that the name of a variable writes, if it begins with the right text. -/
def keyOf? (lead name : String) : Option String :=
  let (lead, name) := (lead.toList, name.toList)
  if lead.isPrefixOf name then some (Text.lower (String.ofList (name.drop lead.length))) else none

/-- Variables with one more; a name that is present keeps its place and takes the new value. -/
def setVariable (vs : List Variable) (v : Variable) : List Variable :=
  if vs.any (·.name == v.name) then vs.map fun w => if w.name == v.name then v else w else vs ++ [v]

/-- The settings among some variables. Of several with one name the last one counts. -/
def ofVariables (lead : String) (vs : List Variable) : Table :=
  (vs.foldl setVariable []).filterMap fun v => do return (.str (← keyOf? lead v.name), .str (← v.value))

namespace Sources

/-- The layer of the file at a path. -/
def fileLayer (s : Sources) (p : FilePath) : Loading Table := do
  match ← readFile s.readers s.files p with
  | none => return []
  | some d =>
    report ("Loaded settings from " ++ p.text)
    mapping p.text d

/-- The file of variables that a path leads to; none when the path can only lead to a directory. -/
def variablesAt? (s : Sources) (path : String) : Option File :=
  if Files.directoryMark path == "" then s.files.file? (FilePath.ofText path) else none

/-- The layer of the file of variables. A directory has none. -/
def variableLayer (s : Sources) (path : String) : Loading Table := do
  if path.startsWith "/" || !s.files.exists? (FilePath.ofText path) then
    report ("Env file " ++ path ++ " not found, skipping")
    return []
  else
    match s.variablesAt? path with
    | some f => return ofVariables s.lead (s.readers.assignments s.environment (← textOf f))
    | none => return []

/-- The layers in order, the strongest last. -/
def layers (s : Sources) : Loading (List Table) := do
  let files ← (s.patterns.flatMap s.files.matching).mapM s.fileLayer
  let fromFile ← match s.variableFile with
    | none | some "" => pure []
    | some path => s.variableLayer path
  let overrides ← if isEmpty s.overrides then pure [] else mapping "overrides" s.overrides
  return files ++ [fromFile, ofVariables s.lead s.environment, overrides]

end Sources

/-- The settings of some layers together. -/
def merge (layers : List Table) : Table :=
  layers.foldl (fun acc t => t.foldl (fun acc e => Datum.insert acc e.1 e.2) acc) []

/-- The settings of all sources, with what was reported on the way. -/
def Sources.load (s : Sources) : Except LoadError Table × Log :=
  (merge <$> s.layers).run.run []

end Stencil.Settings
