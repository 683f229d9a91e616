import Stencil.Text.Lines

/-!
# Lines that open a block

A line of code opens a block when its last token, comments aside, is a colon. The line is read by
itself: brackets that do not balance, a text that is not closed or a continuation at the end leave it
unfinished, and then its last character decides.
-/

namespace Stencil.Opening

/-- A token of a line, as far as blocks depend on it. -/
inductive Mark where
  | colon
  | openBracket
  | closeBracket
  /-- Any other token. -/
  | other
  deriving DecidableEq, Repr

/-- What follows a text in single delimiters on the same line, when it is closed there. -/
def skipShort (quote : Char) : List Char → Option (List Char)
  | '\\' :: _ :: cs => skipShort quote cs
  | c :: cs => if c == quote then some cs else if c == '\\' then none else skipShort quote cs
  | [] => none

/-- Whether a text in single delimiters runs on to the next line: it ends in a lone backslash. -/
def runsOn (quote : Char) : List Char → Bool
  | ['\\'] => true
  | '\\' :: _ :: cs => runsOn quote cs
  | c :: cs => c != quote && runsOn quote cs
  | [] => false

/-- What follows a text in triple delimiters, when it is closed. -/
def skipLong (quote : Char) : List Char → Option (List Char)
  | '\\' :: _ :: cs => skipLong quote cs
  | c :: d :: e :: cs =>
    if c == quote && d == quote && e == quote then some cs
    else if c == '\\' then none
    else skipLong quote (d :: e :: cs)
  | _ => none

theorem length_of_skipShort {quote : Char} {s rest : List Char}
    (h : skipShort quote s = some rest) : rest.length < s.length := by
  fun_induction skipShort quote s with
  | case1 _ cs ih => have := ih h; simp only [List.length_cons]; omega
  | case2 c cs _ hc => simp at h; simp [h]
  | case3 => simp at h
  | case4 c cs _ _ _ ih => have := ih h; simp only [List.length_cons]; omega
  | case5 => simp at h

theorem length_of_skipLong {quote : Char} {s rest : List Char}
    (h : skipLong quote s = some rest) : rest.length < s.length := by
  fun_induction skipLong quote s with
  | case1 _ cs ih => have := ih h; simp only [List.length_cons]; omega
  | case2 => simp at h; simp [h]; omega
  | case3 => simp at h
  | case4 c d e cs _ _ _ ih =>
    have := ih h
    simp only [List.length_cons] at this ⊢
    omega
  | case5 => simp at h

theorem length_dropWhile_le (p : Char → Bool) (s : List Char) :
    (s.dropWhile p).length ≤ s.length :=
  (List.dropWhile_suffix p).length_le

/-- The marks of a line without blanks at its ends; `none` when a text or a continuation is left open
at its end. -/
def marks (s : List Char) : Option (List Mark) :=
  match s with
  | [] => some []
  | '#' :: cs => marks (cs.dropWhile (· != '\r'))
  | ':' :: '=' :: cs => (marks cs).map (Mark.other :: ·)
  | ':' :: cs => (marks cs).map (Mark.colon :: ·)
  | '\\' :: cs => if cs.isEmpty then none else (marks cs).map (Mark.other :: ·)
  | c :: cs =>
    if c == ' ' || c == '\t' || c == '\x0c' then marks cs
    else if c == '\'' || c == '"' then
      if cs.take 2 == [c, c] then
        match _h : skipLong c (cs.drop 2) with
        | some after => (marks after).map (Mark.other :: ·)
        | none => none
      else
        match _h : skipShort c cs with
        | some after => (marks after).map (Mark.other :: ·)
        | none => if runsOn c cs then none else (marks cs).map (Mark.other :: ·)
    else if c == '(' || c == '[' || c == '\x7b' then (marks cs).map (Mark.openBracket :: ·)
    else if c == ')' || c == ']' || c == '\x7d' then (marks cs).map (Mark.closeBracket :: ·)
    else (marks cs).map (Mark.other :: ·)
termination_by s.length
decreasing_by
  all_goals simp only [List.length_cons]
  all_goals first
    | omega
    | exact Nat.lt_succ_of_le (length_dropWhile_le _ _)
    | exact Nat.lt_succ_of_lt (length_of_skipShort _h)
    | exact Nat.lt_succ_of_lt (Nat.lt_of_lt_of_le (length_of_skipLong _h) (List.drop_suffix ..).length_le)

/-- Brackets opened less brackets closed. -/
def bracketDepth (ms : List Mark) : Int :=
  ms.foldl (fun depth m =>
    match m with
    | .openBracket => depth + 1
    | .closeBracket => depth - 1
    | _ => depth) 0

/-- Whether a line opens a block. -/
def opensBlock (line : List Char) : Bool :=
  let atEnd := (Text.trimEnd Text.isBlank line).getLast? == some ':'
  match Text.trim Text.isBlank line with
  | '#' :: _ => false
  | s =>
    match marks s with
    | none => atEnd
    | some ms => if bracketDepth ms == 0 then ms.getLast? == some .colon else atEnd

end Stencil.Opening
