import Stencil.Proofs.Lines
import Stencil.Settings.Sources

/-!
# Files as sources of settings

The name of a file decides how it is read: `.json` makes it a JSON document, `.yaml` and `.yml` a YAML
document, and with every other name it holds no settings. A YAML document that is empty or false is read
as an empty mapping.
-/

namespace Stencil

/-- A list ends with the last occurrence of a member and others behind it. -/
theorem exists_last_occurrence {α : Type} {a : α} {l : List α} (h : a ∈ l) :
    ∃ before after, l = before ++ a :: after ∧ a ∉ after := by
  obtain ⟨after, before, hl, hafter⟩ := List.eq_append_cons_of_mem (List.mem_reverse.2 h)
  refine ⟨before.reverse, after.reverse, ?_, by simpa using hafter⟩
  rw [← List.reverse_reverse l, hl]
  simp

namespace Text

variable {sep : Char} {s t : List Char}

end Text

namespace Settings

section

variable {stem last ext : List Char}

end

/-- The last segment of a path has an ending behind some text. -/
def Ends (p : FilePath) (ext : String) : Prop := ∃ dir stem, p = dir ++ [stem ++ ext] ∧ stem ≠ ""

/-- The file at a path is a document of some settings. -/
inductive Document (r : Readers) (t : Files) (p : FilePath) : Datum → Prop
  | json {f : File} {text : String} {d : Datum} (hfile : t.file? p = some f) (hname : Ends p ".json")
    (htext : textOf f = .ok text) (hread : Json.read? text = some d) : Document r t p d
  | yaml {f : File} {text : String} {d : Datum} (hfile : t.file? p = some f)
    (hname : Ends p ".yaml" ∨ Ends p ".yml") (htext : textOf f = .ok text)
    (hread : r.yaml text = some d) (hfull : isEmpty d = false) : Document r t p d
  | emptyYaml {f : File} {text : String} {d : Datum} (hfile : t.file? p = some f)
    (hname : Ends p ".yaml" ∨ Ends p ".yml") (htext : textOf f = .ok text)
    (hread : r.yaml text = some d) (hempty : isEmpty d = true) : Document r t p (.dict [])

variable {r : Readers} {t : Files} {p : FilePath}

end Settings

end Stencil
