import Stencil.OrderedSet

/-!
# Asset tags

References to stylesheets and scripts and the tags that they are written as. Inside a tag the five
characters with a meaning in markup are written as character references, so that a reference cannot end
the attribute it stands in. Tags are separated by line feeds.
-/

namespace Stencil

/-- What the references of a set point to. -/
inductive AssetKind where
  | plain
  | stylesheet
  | script
  deriving DecidableEq, Inhabited, Repr

namespace AssetKind

/-- The name of the class of sets. -/
def setName : AssetKind → String
  | plain => "AssetSet"
  | stylesheet => "StylesheetSet"
  | script => "ScriptSet"

/-- The class of sets with a given name. -/
def ofName? : String → Option AssetKind
  | "AssetSet" => some plain
  | "StylesheetSet" => some stylesheet
  | "ScriptSet" => some script
  | _ => none

end AssetKind

namespace Markup

/-- A character as markup text. -/
def escapeChar : Char → List Char
  | '&' => "&amp;".toList
  | '<' => "&lt;".toList
  | '>' => "&gt;".toList
  | '\'' => "&#39;".toList
  | '"' => "&#34;".toList
  | c => [c]

/-- A text as markup text. -/
def escape (s : List Char) : List Char := s.flatMap escapeChar

end Markup

namespace Assets

/-- The tag of a reference. -/
def tag (kind : AssetKind) (ref : List Char) : List Char :=
  let body := Markup.escape ref
  match kind with
  | .plain => body
  | .stylesheet => "<link rel=\"stylesheet\" type=\"text/css\" href=\"".toList ++ body ++ "\">".toList
  | .script => "<script src=\"".toList ++ body ++ "\"></script>".toList

/-- The tags of references, one on each line. -/
def render (kind : AssetKind) (refs : List String) : String :=
  "\n".intercalate (refs.map fun r => String.ofList (tag kind r.toList))

end Assets

end Stencil
