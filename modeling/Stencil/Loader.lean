import Stencil.Files
import Stencil.Template

/-!
# Loading templates

A loader finds the templates below its search paths. A template name is a path with slashes, of which
empty segments and dots are dropped; a step up finds nothing. The first search path with a file of that
name wins. Files are read afresh each time.
-/

namespace Stencil

/-- Where templates are looked for, and the endings of the names that are listed. -/
structure Loader where
  searchPaths : List String := ["."]
  extensions : List String := [".tpl"]
  deriving Inhabited, Repr

/-- Why a template cannot be read. -/
inductive LoadError where
  /-- No search path has a file of this name. -/
  | notFound (name : String)
  | unknownEncoding (name : String)
  | undecodable (e : DecodeError)
  /-- The text is not a template. -/
  | compile (path : String) (e : CompileError)

/-- The text of a template with the path it was read from. -/
structure Source where
  text : String
  path : String
  deriving Inhabited, Repr

namespace Loader

/-- A search path in its shortest notation. -/
def tidy (path : String) : String :=
  let body := "/".intercalate (FilePath.ofText path)
  if path.startsWith "/" then "/" ++ body else if body == "" then "." else body

/-- A loader for search paths; without any it looks in the root. -/
def ofPaths (searchPaths : List String) (extensions : List String) : Loader :=
  { searchPaths := (if searchPaths.isEmpty then ["."] else searchPaths).map tidy
    extensions := if extensions.isEmpty then [".tpl"] else extensions }

/-- The segments of a template name; `none` when it steps up. -/
def segments? (name : String) : Option FilePath :=
  let pieces := (Text.cutAt '/' name.toList).map String.ofList
  if pieces.contains ".." then none else some (pieces.filter fun p => p != "" && p != ".")

/-- Where a search path begins; `none` outside the tree. -/
def root? (searchPath : String) : Option FilePath :=
  if searchPath.startsWith "/" then none else some (FilePath.ofText searchPath)

/-- The path and the file of a template name. -/
def find? (l : Loader) (t : Files) (name : String) : Option (FilePath × File) := do
  let pieces ← segments? name
  l.searchPaths.findSome? fun s => do
    let p := (← root? s) ++ pieces
    return (p, ← t.file? p)

/-- The text of a file, with line feeds for its line breaks. -/
def decode (encoding : String) (path : FilePath) (file : File) : Except LoadError Source :=
  match Encoding.ofName? encoding with
  | none => .error (.unknownEncoding encoding)
  | some e =>
    match e.decode file.data with
    | .error e => .error (.undecodable e)
    | .ok cs => .ok ⟨String.ofList (Encoding.unifyBreaks cs), path.normal.text⟩

/-- Read a template. -/
def read (l : Loader) (t : Files) (encoding name : String) : Except LoadError Source :=
  match l.find? t name with
  | none => .error (.notFound name)
  | some (path, file) => decode encoding path file

/-- Read a template and make it ready. -/
def load (l : Loader) (t : Files) (encoding name : String) : Except LoadError (Source × Template) := do
  let source ← l.read t encoding name
  match Template.compile source.path source.text with
  | .ok template => return (source, template)
  | .error e => throw (.compile source.path e)

/-- Whether a text ends in another one. -/
def endsWith (s ending : String) : Bool := ending.toList.isSuffixOf s.toList

/-- Put a text into a sorted list without repetition. -/
def insertSorted (s : String) : List String → List String
  | [] => [s]
  | t :: rest => if s < t then s :: t :: rest else if s == t then t :: rest else t :: insertSorted s rest

/-- The names of all templates, sorted. -/
def list (l : Loader) (t : Files) : List String :=
  let names := l.searchPaths.flatMap fun s =>
    ((root? s).map t.below).getD [] |>.filter (fun p => l.extensions.any (endsWith (p.getLastD "")))
  (names.map FilePath.text).foldl (fun acc n => insertSorted n acc) []

end Loader

end Stencil
