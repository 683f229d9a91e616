import Stencil.Text.Word

/-!
# Directive tokens

A template is literal text with directives between `<%` and `%>`. A directive begins with an indicator:
`->`, `#`, a run of `=`, or a run of other punctuation; what follows up to the first `%>` is its code.
A dash right before `%>` belongs to the closing mark. `tokenize` takes a template apart and
`serialize` writes tokens back.
-/

namespace Stencil

/-- A directive with the text before it, or, without an indicator, the text after the last one. -/
structure Token where
  /-- The literal text before the directive. -/
  text : String
  /-- What follows the opening mark; absent in the token of the trailing text. -/
  indicator : Option String
  /-- What stands between the indicator and the closing mark. -/
  code : String
  deriving DecidableEq, Inhabited, Repr

namespace Directive

/-- Characters that a statement may begin with, so that they never count as an indicator. -/
def beginsCode (c : Char) : Bool :=
  Text.isWord c || Text.isBlank c || "%'\"([\x7b+-~*._#=\\".toList.contains c

/-- Punctuation that is taken as an indicator, whether or not it has a meaning. -/
def isPunctuation (c : Char) : Bool := !beginsCode c

/-- The code of a directive and what follows its closing mark: the code ends at the first `%>`, and
one dash before the mark belongs to the mark. -/
def splitCode : List Char → Option (List Char × List Char)
  | '%' :: '>' :: rest => some ([], rest)
  | '-' :: '%' :: '>' :: rest => some ([], rest)
  | c :: rest => (splitCode rest).map fun r => (c :: r.1, r.2)
  | [] => none

/-- The indicators that the text after an opening mark admits, the preferred one first: each is given
with what follows it. -/
def indicators (s : List Char) : List (List Char × List Char) :=
  let arrow := match s with
    | '-' :: '>' :: rest => [(['-', '>'], rest)]
    | _ => []
  let hash := match s with
    | '#' :: rest => [(['#'], rest)]
    | _ => []
  let equals := match s.takeWhile (· == '=') with
    | [] => []
    | run => [(run, s.drop run.length)]
  let other := s.takeWhile isPunctuation
  arrow ++ hash ++ equals ++ [(other, s.drop other.length)]

/-- A directive read after its opening mark: its indicator, its code and what follows. -/
structure Body where
  indicator : List Char
  code : List Char
  rest : List Char

/-- The first admitted indicator whose code is closed. -/
def readBody (s : List Char) : Option Body :=
  (indicators s).findSome? fun i => (splitCode i.2).map fun r => ⟨i.1, r.1, r.2⟩

theorem length_of_splitCode {s code rest : List Char} (h : splitCode s = some (code, rest)) :
    rest.length < s.length := by
  induction s using splitCode.induct generalizing code with
  | case1 r =>
    simp only [splitCode, Option.some.injEq, Prod.mk.injEq] at h
    simp only [← h.2, List.length_cons]
    omega
  | case2 r =>
    simp only [splitCode, Option.some.injEq, Prod.mk.injEq] at h
    simp only [← h.2, List.length_cons]
    omega
  | case3 c r h1 h2 ih =>
    rw [splitCode] at h
    · obtain ⟨⟨code', rest'⟩, hr, he⟩ := Option.map_eq_some_iff.1 h
      simp only [Prod.mk.injEq] at he
      have := @ih code' (by rw [hr, he.2])
      simp only [List.length_cons]
      omega
    · exact h1
    · exact h2
  | case4 => simp [splitCode] at h

theorem suffix_of_mem_indicators {s : List Char} {i : List Char × List Char}
    (h : i ∈ indicators s) : i.2 <:+ s := by
  simp only [indicators, List.mem_append] at h
  rcases h with ((h | h) | h) | h
  · split at h
    · rw [List.mem_singleton.1 h]
      exact (List.suffix_cons _ _).trans (List.suffix_cons _ _)
    · exact absurd h List.not_mem_nil
  · split at h
    · rw [List.mem_singleton.1 h]
      exact List.suffix_cons _ _
    · exact absurd h List.not_mem_nil
  · split at h
    · exact absurd h List.not_mem_nil
    · rw [List.mem_singleton.1 h]
      exact List.drop_suffix _ _
  · rw [List.mem_singleton.1 h]
    exact List.drop_suffix _ _

theorem length_of_readBody {s : List Char} {b : Body} (h : readBody s = some b) :
    b.rest.length < s.length := by
  obtain ⟨i, hi, hb⟩ := List.exists_of_findSome?_eq_some h
  obtain ⟨r, hr, rfl⟩ := Option.map_eq_some_iff.1 hb
  have := @length_of_splitCode i.2 r.1 r.2 hr
  have := (suffix_of_mem_indicators hi).length_le
  simp only
  omega

/-- The tokens of what remains of a template, after literal text that is kept in reverse. -/
def scan (text : List Char) (s : List Char) : List Token :=
  match s with
  | [] => if text.isEmpty then [] else [⟨String.ofList text.reverse, none, ""⟩]
  | '<' :: '%' :: rest =>
    match _h : readBody rest with
    | some b =>
      ⟨String.ofList text.reverse, some (String.ofList b.indicator), String.ofList b.code⟩ ::
        scan [] b.rest
    | none => scan ('<' :: text) ('%' :: rest)
  | c :: rest => scan (c :: text) rest
termination_by s.length
decreasing_by
  · have := length_of_readBody _h
    simp only [List.length_cons]
    omega
  · simp
  · simp

end Directive

/-- The tokens of a template. -/
def tokenize (source : String) : List Token := Directive.scan [] source.toList

/-- A token as template text; `trim` closes a directive with a dash. -/
def Token.serialize (trim : Bool) (t : Token) : String :=
  match t.indicator with
  | none => t.text
  | some i => t.text ++ "<%" ++ i ++ t.code ++ (if trim then "-%>" else "%>")

end Stencil
