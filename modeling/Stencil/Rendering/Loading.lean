import Stencil.Rendering.Run

/-!
# Loading and checking templates

Reading templates through a loader, with the exceptions that reports are made of, and the list of what
is wrong with the templates that a loader can see.
-/

namespace Stencil

open World Evaluation

namespace LoadError

/-- Stop with an exception for what is wrong. -/
def raise {α : Type} (l : Loader) : LoadError → Action α
  | .notFound name => do
    let paths := ", ".intercalate (l.searchPaths.map Text.quoted)
    let text :=
      if (Loader.segments? name).isNone then name
      else Text.quoted name ++ " not found in search path" ++
        (if l.searchPaths.length = 1 then "" else "s") ++ ": " ++ paths
    raiseValue (← allocValue (.exception
      { type := .exception "TemplateNotFound", args := [.str name], text := some text }))
  | .unknownEncoding name => raiseText "LookupError" ("unknown encoding: " ++ name)
  | .undecodable .invalid => raiseText "UnicodeDecodeError" ""
  | .undecodable .noByteOrder => raiseText "UnicodeError" ""
  | .compile path e =>
    match e.fault? path with
    | some f => raiseFault f
    | none => valueError CompileError.nullMessage

end LoadError

namespace Loader

/-- The loader at a reference. -/
def at' (v : Value) : Action Loader := do
  match ← object? v with
  | some (.loader l) => return l
  | _ => return {}

/-- The loader and the encoding of a loader or a manager. -/
def withEncoding (v : Value) : Action (Loader × String) := do
  match ← object? v with
  | some (.manager l e) => return (← at' (.ref l), e)
  | _ => return (← at' v, "utf-8")

/-- A loader for the search paths that a value holds; without any it looks in the root. -/
def ofValue (m : Interpreter) (paths : Value) (extensions : List String) : Action Loader := do
  if ← truth paths then
    let items ← collect m paths
    let texts ← items.mapM fun v => do
      match v.text? with
      | some s => return s
      | none => typeError ("expected str, bytes or os.PathLike object, not " ++ (← typeName v))
    return ofPaths texts extensions
  else return ofPaths [] extensions

/-- Read a template. -/
def readSource (l : Loader) (name encoding : String) : Action Source := do
  match l.read (← get).files encoding name with
  | .ok s => return s
  | .error e => e.raise l

/-- Read a template and make it ready. -/
def loadTemplate (l : Loader) (name encoding : String) : Action Template := do
  let source ← l.readSource name encoding
  logMessage "viewer.templates.loader" ("Loaded template " ++ name ++ " from " ++ source.path)
  Template.make source.path source.text

/-- Whether a template can be read in the usual encoding. -/
def hasTemplate (l : Loader) (name : String) : Action Bool := do
  match l.read (← get).files "utf-8" name with
  | .ok _ => return true
  | .error (.notFound _) => return false
  | .error e => e.raise l

/-- Call a method of a loader. -/
def method (l : Loader) (name : String) (args : Arguments) : Action Value := do
  let signature (params : List String) (required : Nat) : Signature :=
    { name := "TemplateLoader." ++ name, positional := "self" :: params, required := required + 1 }
  let b ← Template.matched
    (match name with
      | "load" => signature ["path", "encoding"] 1
      | "exists" => signature ["path"] 1
      | _ => signature [] 0)
    { args with items := .none :: args.items }
  let argument (n other : String) : Action String := do
    match b.get? n with
    | none => return other
    | some v =>
      match v.text? with
      | some s => return s
      | none => missingAttribute v "split"
  match name with
  | "load" =>
    allocValue (.template (← l.loadTemplate (← argument "path" "") (← argument "encoding" "utf-8")))
  | "exists" => return .bool (← l.hasTemplate (← argument "path" ""))
  | _ => newList ((l.list (← get).files).map Value.str)

end Loader

/-- What is wrong with a template. -/
structure LintIssue where
  templateName : String
  severity : String
  message : String
  code : String
  line : Option Int := none
  /-- The directive or code at fault. -/
  context : Option String := none
  deriving Inhabited, Repr

/-- An issue in one line; a line number of zero is left out. -/
def LintIssue.text (i : LintIssue) : String :=
  let location := match i.line with
    | some n => if n = 0 then i.templateName else i.templateName ++ ":" ++ Text.intText n
    | none => i.templateName
  location ++ ": " ++ i.severity ++ ": " ++ i.message ++ " [" ++ i.code ++ "]"

namespace Loader

/-- What keeps a template from being made ready. -/
def lint (l : Loader) (encoding name : String) : Action (List LintIssue) := do
  match ← attempt (l.loadTemplate name encoding) with
  | .ok _ => return []
  | .error (.raised r) =>
    match ← exception? r.value with
    | some e =>
      match e.type, e.fault with
      | .exception "TemplateNotFound", _ =>
        return [{ templateName := name, severity := "error"
                  message := "Template '" ++ name ++ "' not found", code := "TEMPLATE_NOT_FOUND" }]
      | _, some f =>
        let context := match f.kind with
          | .directiveSyntax => some (f.textDetail "directive")
          | .codeSyntax => some (Text.strip (f.textDetail "code"))
          | _ => none
        match context with
        | some c =>
          return [{ templateName := name, severity := "error", message := f.message, code := f.code
                    line := f.place.line, context := some c }]
        | none => throw (.raised r)
      | _, none => throw (.raised r)
    | none => throw (.raised r)
  | .error .exhausted => throw .exhausted

/-- What keeps the templates that are listed from being made ready. -/
def lintAll (l : Loader) (encoding : String) : Action (List LintIssue) := do
  let names := l.list (← get).files
  let issues ← names.mapM (l.lint encoding)
  let all := issues.flatten
  logMessage "viewer.templates.manager"
    ("Linted " ++ Text.natText names.length ++ " template(s), " ++ Text.natText all.length ++
      " issue(s)")
  return all

end Loader

end Stencil
