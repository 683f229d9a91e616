import Stencil.Evaluation.Types

/-!
# The notation of values

How values are shown inside other values and in reports. A list or table that holds itself is shown with
dots in the inner place.
-/

namespace Stencil.Evaluation

open World

/-- How deeply values may be nested when they are shown or compared. -/
def maxNesting : Nat := 1000

/-- Stop because values are nested too deeply. -/
def tooDeep {α : Type} : Action α := raiseText "RecursionError" "maximum recursion depth exceeded"

/-- Put a text into a sorted list. -/
def insertSorted (s : String) : List String → List String
  | [] => [s]
  | t :: rest => if s < t then s :: t :: rest else t :: insertSorted s rest

/-- Texts in order. -/
def sortTexts (l : List String) : List String := l.foldl (fun acc s => insertSorted s acc) []

/-- Where a built-in class of contexts is at home. -/
def contextHome (name : String) : String :=
  match name with
  | "View" => "viewer.views.view."
  | "Context" => "viewer.templates.exposure."
  | _ => "viewer.templates.context."

/-- The notation of a type. -/
def typeNotation (t : TypeRef) : Action String := do
  let name ← nameOfType t
  let home ← match t with
    | .context id => do
      if (← classAt id).builtin then return "<class '" ++ contextHome name ++ name ++ "'>" else pure ""
    | t => pure <| match t with
    | .fault .fault => "viewer.faults.core."
    | .fault _ => "viewer.faults.domains."
    | .assets _ => "viewer.views.assets."
    | .exception "TemplateNotFound" => "jinja2.exceptions."
    | .plain "RenderStage" => "viewer.views.view."
    | .plain "AssetBundle" => "viewer.views.assets."
    | .plain "ViewConfig" => "viewer.views.view."
    | .plain "Fragment" => "viewer.templates.engine."
    | .plain "BasicContext" => "viewer.templates.context."
    | _ => ""
  return "<class '" ++ home ++ name ++ "'>"

/-- The notation of items in brackets. -/
def bracketed (opener closer : String) (items : List String) : String :=
  opener ++ ", ".intercalate items ++ closer

/-- The chunks of a fragment that stand for deferred expressions. -/
def countBindings (chunks : List Value) : Action Nat := do
  let mut n := 0
  for c in chunks do
    match ← object? c with
    | some (.binding _) => n := n + 1
    | _ => pure ()
  return n

/-- The notation of a binding. -/
def bindingNotation (b : Binding) : String :=
  "<DeferredBinding " ++ Text.quoted (Text.strip b.segment.code) ++ " line=" ++
    Text.natText b.segment.line ++ (if b.resolved then " resolved>" else " pending>")

/-- The notation of an integer, unless it has too many digits. -/
def intNotation (i : Int) : Action String :=
  if i.natAbs < Number.digitLimit then return Text.intText i
  else valueError (Number.tooManyDigits ++ Number.raiseLimit)

/-- The notation of a value; `inside` holds the objects around it. -/
def notate (fuel : Nat) (inside : List Ref) (v : Value) : Action String :=
  match fuel with
  | 0 => tooDeep
  | fuel + 1 => do
    let show' := notate fuel
    match v with
    | .none => return "None"
    | .bool b => return Datum.boolText b
    | .int i => intNotation i
    | .float x => return Number.floatText x
    | .str s => return Text.quoted s
    | .tuple [x] => return "(" ++ (← show' inside x) ++ ",)"
    | .tuple items => return bracketed "(" ")" (← items.mapM (show' inside))
    | .range a b c =>
      let base := "range(" ++ Text.intText a ++ ", " ++ Text.intText b
      return base ++ (if c == 1 then ")" else ", " ++ Text.intText c ++ ")")
    | .slice a b c => return bracketed "slice(" ")" (← [a, b, c].mapM (show' inside))
    | .ellipsis => return "Ellipsis"
    | .notImplemented => return "NotImplemented"
    | .type t => typeNotation t
    | .builtin n => return "<built-in function " ++ n ++ ">"
    | .stage s => return "<RenderStage." ++ s.name.toUpper ++ ": '" ++ s.name ++ "'>"
    | .severity s => return "<Severity." ++ s.name.toUpper ++ ": '" ++ s.name ++ "'>"
    | .domain d => return d.repr
    | .exposed n => return "<Exposed " ++ Text.quoted n ++ ">"
    | .ref r =>
      match ← load r with
      | .list items =>
        if inside.contains r then return "[...]"
        else return bracketed "[" "]" (← items.toList.mapM (show' (r :: inside)))
      | .dict entries =>
        if inside.contains r then return "\x7b...\x7d"
        else
          let items ← entries.mapM fun e => do
            return (← show' (r :: inside) e.1) ++ ": " ++ (← show' (r :: inside) e.2)
          return bracketed "\x7b" "\x7d" items
      | .view t part =>
        match ← load t with
        | .dict entries =>
          let items ← entries.mapM fun e =>
            show' (r :: inside)
              (if part == "keys" then e.1 else if part == "values" then e.2 else .tuple [e.1, e.2])
          return bracketed ("dict_" ++ part ++ "([") "])" items
        | _ => return "dict_" ++ part ++ "([])"
      | .exception e =>
        match e.fault with
        | some f => return f.repr
        | none => return bracketed ((← typeName v) ++ "(") ")" (← e.args.mapM (show' inside))
      | .instance cls attrs =>
        let name := (← classAt cls).name
        if (← classAt cls).kind == .view then
          let template := ((attrs.find? (·.1 == "_template")).map (·.2)).getD .none
          let shown ← (do
            if ← truth template then return template
            else
              for id in ← chain cls do
                match (← classAt id).attrs.find? (·.1 == "config") with
                | some (_, c) =>
                  match ← object? c with
                  | some (.config c) => return c.template
                  | _ => return .none
                | none => pure ()
              return .none : Action Value)
          return "<" ++ name ++ " template=" ++ (← show' inside shown) ++ ">"
        else return bracketed (name ++ "(") ")" (sortTexts (attrs.map (·.1)))
      | .assets kind refs =>
        return bracketed (kind.setName ++ "([") "])" (← refs.toList.mapM (show' inside))
      | .bundle css js =>
        let part (r : Ref) : Action String := do
          match ← load r with
          | .assets _ refs => return bracketed "[" "]" (← refs.toList.mapM (show' inside))
          | _ => return "[]"
        return "AssetBundle(css=" ++ (← part css) ++ ", js=" ++ (← part js) ++ ")"
      | .fragment chunks =>
        return "<Fragment chunks=" ++ Text.natText chunks.size ++ " deferred=" ++
          Text.natText (← countBindings chunks.toList) ++ ">"
      | .binding b => return bindingNotation b
      | .template t => return t.repr
      | .config c =>
        let items ← ViewConfig.fieldNames.mapM fun n => do
          return n ++ "=" ++ (← show' inside ((c.get? n).getD .none))
        return bracketed "ViewConfig(" ")" items
      | .settings s =>
        let items ← ViewerSettings.fieldNames.mapM fun n => do
          return n ++ "=" ++ (← show' inside (s.get n))
        return bracketed "ViewerSettings(" ")" items
      | _ => return "<" ++ (← typeName v) ++ " object>"
    | _ => return "<" ++ (← typeName v) ++ " object>"

/-- The notation of a value by itself. -/
def reprOf (v : Value) : Action String := notate maxNesting [] v

end Stencil.Evaluation
