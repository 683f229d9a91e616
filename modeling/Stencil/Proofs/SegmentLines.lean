import Stencil.Proofs.CodeLines
import Stencil.Proofs.Emission
import Stencil.Proofs.LogicalLines

/-!
# The logical lines of a segment

What a reader of blocks sees of the lines that a segment writes. A call that writes or reserves a place is
one logical line, however many lines an expression has; a statement is one unless it is empty or a
comment; and a block that is opened begins with a line of its own, one step further in.
-/

namespace Stencil

open Script.Layout

namespace Text

/-- Lines one after another, each ended by a line feed. -/
def unlines (ls : List (List Char)) : List Char := ls.flatMap (· ++ ['\n'])

variable {ls : List (List Char)} {sep : Char} {s : List Char}

theorem joinWith_append_newline (h : ls ≠ []) : joinWith ['\n'] ls ++ ['\n'] = unlines ls := by
  induction ls with
  | nil => exact absurd rfl h
  | cons l ls ih =>
    cases ls with
    | nil => simp [joinWith, unlines]
    | cons m ls =>
      rw [joinWith_cons_cons, List.append_assoc, List.append_assoc, ih (by simp)]
      simp [unlines]

/-- The pieces of a text make it up again. -/
theorem joinWith_cutAt (sep : Char) (s : List Char) : joinWith [sep] (cutAt sep s) = s := by
  induction s with
  | nil => rfl
  | cons c s ih =>
    by_cases hsep : c = sep
    · obtain ⟨l, ls, hs⟩ := List.exists_cons_of_ne_nil (cutAt_ne_nil sep s)
      rw [hsep, cutAt_self, hs, joinWith_cons_cons, ← hs, ih]
      rfl
    · obtain ⟨l, ls, hs, hc⟩ := exists_cutAt_cons hsep s
      rw [hs] at ih
      rw [hc]
      cases ls with
      | nil => rw [← ih]; rfl
      | cons m ls => rw [← ih, joinWith_cons_cons, joinWith_cons_cons, List.cons_append]

end Text

namespace Script.Layout.Cursor

variable {d : Nat}

theorem next_short {quote : Quote} {c : Char} (h : c ≠ quote.char ∧ c ≠ '\\' ∧ c ≠ '\n') :
    next ⟨.short quote, d⟩ c = some ⟨.short quote, d⟩ := by
  simp [next, afterShort, h]

theorem run_short {quote : Quote} {s : List Char}
    (h : ∀ c ∈ s, c ≠ quote.char ∧ c ≠ '\\' ∧ c ≠ '\n') :
    run ⟨.short quote, d⟩ s = some ⟨.short quote, d⟩ := by
  induction s with
  | nil => rfl
  | cons c s ih =>
    rw [List.forall_mem_cons] at h
    rw [run_cons, next_short h.1, Option.bind_some, ih h.2]

theorem hex_plain (quote : Quote) (n width : Nat) :
    ∀ c ∈ Text.Quoted.hex n width, c ≠ quote.char ∧ c ≠ '\\' ∧ c ≠ '\n' := by
  have hdigit (n : Nat) : Text.Quoted.hexDigit (n % 16) ≠ quote.char ∧
      Text.Quoted.hexDigit (n % 16) ≠ '\\' ∧ Text.Quoted.hexDigit (n % 16) ≠ '\n' := by
    have h : ∀ k : Fin 16, Text.Quoted.hexDigit k ≠ quote.char ∧ Text.Quoted.hexDigit k ≠ '\\' ∧
        Text.Quoted.hexDigit k ≠ '\n' := by cases quote <;> decide
    exact h ⟨n % 16, Nat.mod_lt _ (by decide)⟩
  induction width generalizing n with
  | zero => exact fun _ hc => absurd hc List.not_mem_nil
  | succ width ih =>
    intro c hc
    rcases List.mem_append.1 hc with hc | hc
    · exact ih _ c hc
    · rw [List.mem_singleton.1 hc]
      exact hdigit n

/-- A character in its quoted form stays inside the text, and does not begin with the delimiter. -/
theorem run_escape (quote : Quote) (c : Char) :
    run ⟨.short quote, d⟩ (Text.Quoted.escape quote.char c) = some ⟨.short quote, d⟩ ∧
      ∃ e es, Text.Quoted.escape quote.char c = e :: es ∧ e ≠ quote.char := by
  have hback : '\\' ≠ quote.char := by cases quote <;> decide
  have hescaped (e : Char) {es : List Char}
      (hes : ∀ c ∈ es, c ≠ quote.char ∧ c ≠ '\\' ∧ c ≠ '\n') :
      run ⟨.short quote, d⟩ ('\\' :: e :: es) = some ⟨.short quote, d⟩ ∧
        ∃ f fs, '\\' :: e :: es = f :: fs ∧ f ≠ quote.char := by
    refine ⟨?_, _, _, rfl, hback⟩
    have hnext : next ⟨.short quote, d⟩ '\\' = some ⟨.shortEscape quote, d⟩ := by
      simp [next, afterShort, hback]
    rw [run_cons, hnext, Option.bind_some, run_cons]
    exact run_short hes
  unfold Text.Quoted.escape
  split
  · exact hescaped c (by simp)
  · rename_i hc
    simp only [Bool.or_eq_true, beq_iff_eq, not_or] at hc
    split
    · exact hescaped 'n' (by simp)
    · rename_i hfeed
      simp only [beq_iff_eq] at hfeed
      split
      · exact hescaped 'r' (by simp)
      · split
        · exact hescaped 't' (by simp)
        · split
          · exact ⟨run_short (by simp [hc, hfeed]), c, [], rfl, hc.1⟩
          · unfold Text.Quoted.numbered
            dsimp only
            split
            · exact hescaped 'x' (hex_plain quote _ _)
            · split
              · exact hescaped 'u' (hex_plain quote _ _)
              · exact hescaped 'U' (hex_plain quote _ _)

/-- The quoted form of a text is closed. -/
theorem run_encode (s : List Char) : ∃ p, Cursor.run ⟨.code, d + 1⟩ (Text.Quoted.encode s) = some p ∧
    p.next ')' = some ⟨.code, d⟩ := by
  have hquote : ∃ quote : Quote, Text.Quoted.delimiter s = quote.char := by
    unfold Text.Quoted.delimiter
    split
    · exact ⟨.double, rfl⟩
    · exact ⟨.single, rfl⟩
  obtain ⟨quote, hquote⟩ := hquote
  have hopen : next ⟨.code, d + 1⟩ quote.char = some ⟨.opening quote, d + 1⟩ := by
    cases quote <;> rfl
  unfold Text.Quoted.encode
  simp only [hquote]
  rw [run_cons, hopen, Option.bind_some]
  cases s with
  | nil =>
    refine ⟨⟨.empty quote, d + 1⟩, ?_, by cases quote <;> rfl⟩
    simp [run, next, afterShort]
  | cons c s =>
    have hrun (s : List Char) : run ⟨.short quote, d + 1⟩
        (s.flatMap (Text.Quoted.escape quote.char)) = some ⟨.short quote, d + 1⟩ := by
      induction s with
      | nil => rfl
      | cons c s ih =>
        rw [List.flatMap_cons, run_append, (run_escape quote c).1, Option.bind_some, ih]
    -- Before the first character of the text its delimiter would make it an empty one.
    have hfirst : run ⟨.opening quote, d + 1⟩ ((c :: s).flatMap (Text.Quoted.escape quote.char)) =
        some ⟨.short quote, d + 1⟩ := by
      obtain ⟨e, es, he, hne⟩ := (run_escape (d := d + 1) quote c).2
      have hrun := hrun (c :: s)
      rw [List.flatMap_cons, he, List.cons_append, run_cons] at hrun ⊢
      have hsame : next ⟨.opening quote, d + 1⟩ e = next ⟨.short quote, d + 1⟩ e := by
        simp [next, afterShort, hne]
      rwa [hsame]
    refine ⟨⟨.code, d + 1⟩, ?_, by simp [next, afterCode]⟩
    rw [run_append, hfirst, Option.bind_some, run_cons]
    simp [next, afterShort, run]

theorem run_natText (n : Nat) : Cursor.run ⟨.code, d⟩ (Text.natText n).toList = some ⟨.code, d⟩ := by
  have h (c : Char) (hc : c ∈ (Text.natText n).toList) : c.isDigit = true := Text.isDigit_of_mem_natText hc
  generalize (Text.natText n).toList = s at h
  induction s with
  | nil => rfl
  | cons c s ih =>
    rw [List.forall_mem_cons] at h
    have hc (e : Char) (he : e.isDigit = false) : c ≠ e := by
      rintro rfl
      rw [h.1] at he
      cases he
    have hnext : next ⟨.code, d⟩ c = some ⟨.code, d⟩ := by
      simp [next, afterCode, hc]
    rw [run_cons, hnext, Option.bind_some, ih h.2]

theorem run_spaces (n : Nat) : Cursor.run ⟨.code, d⟩ (List.replicate n ' ') = some ⟨.code, d⟩ := by
  induction n with
  | zero => rfl
  | succ n ih => exact ih

end Script.Layout.Cursor

namespace Segment

open Listing

/-- The line of a statement, without its margin and what is blank at the end. -/
def statementLine (s : Segment) : List Char := (statementLines s.code).headD []

/-- The code of an expression without the line feeds at its ends. -/
def expression (s : Segment) : List Char := Text.trim (· == '\n') s.code.toList

/-- A directive that leaves nothing open: a statement on one line, indented by spaces and tabs at most,
or an expression. -/
def StandsAlone (s : Segment) : Prop :=
  match s.kind with
  | .statement =>
    statementLines s.code = [s.statementLine] ∧ '\r' ∉ s.statementLine ∧
      s.statementLine.head?.any Text.isBlank = false ∧ IsClosed s.statementLine
  | .interpolation => IsClosed s.expression
  | _ => True

instance (s : Segment) : Decidable s.StandsAlone :=
  match s with
  | ⟨.statement, _, _, _⟩ => inferInstanceAs (Decidable (_ ∧ _ ∧ _ ∧ _))
  | ⟨.interpolation, _, _, _⟩ => inferInstanceAs (Decidable (IsClosed _))
  | ⟨.literal, _, _, _⟩ | ⟨.deferred, _, _, _⟩ | ⟨.comment, _, _, _⟩ | ⟨.error, _, _, _⟩ =>
    isTrue trivial

/-- Whether a line holds nothing, or a comment only. -/
def isRemark (line : List Char) : Bool := line.head?.all (· == '#')

/-- The logical line of a segment, if it writes one, at an indentation. -/
def logicalText (indent : List Char) (index : Nat) (s : Segment) : Option (List Char) :=
  match s.kind with
  | .literal => some ("_tpl_write(".toList ++ Text.Quoted.encode s.code.toList ++ [')'])
  | .statement =>
    if role (statementLines s.code) = .closer || isRemark s.statementLine then none
    else some s.statementLine
  | .interpolation =>
    some ("_tpl_emit((\n".toList ++ Script.Lexer.normalize (s.expression ++ ['\n']) ++ indent ++
      "))".toList)
  | .deferred => some ("_tpl_defer(".toList ++ (Text.natText index).toList ++ [')'])
  | .comment | .error => none

end Segment

namespace Listing

/-- The indentation inside a number of blocks. -/
def margin (depth : Nat) : List Char := List.replicate (4 * depth) ' '

/-- The logical lines of a segment inside a number of blocks. -/
def logicalLines (depth index : Nat) (s : Segment) : List LogicalLine :=
  (s.logicalText (margin depth) index).toList.map (⟨4 * depth, ·⟩) ++
    if s.opens then [⟨4 * (depth + 1), "pass".toList⟩] else []

theorem indented_of_ne_nil {indent line : List Char} (h : line ≠ []) :
    indented indent line = indent ++ line :=
  if_neg (by simpa using h)

theorem unbroken_margin (depth : Nat) : Text.Unbroken (margin depth) := by
  simp [Text.Unbroken, margin]

theorem unlines_margin {line : List Char} (h : Text.Unbroken line) (depth : Nat) :
    Script.Lexer.normalize (Text.unlines [margin depth ++ line]) = margin depth ++ (line ++ ['\n']) := by
  have hu := (Text.unbroken_append.2 ⟨unbroken_margin depth, h⟩).2
  rw [Script.Lexer.normalize_of_not_mem (by simpa [Text.unlines] using hu)]
  simp [Text.unlines]

end Listing

section

open Listing

variable {s : Segment} {depth index : Nat} {line rest : List Char} {ls : List (List Char)}
  {p : Cursor}

theorem normalize_unlines :
    Script.Lexer.normalize (Text.unlines ls ++ rest) =
      Script.Lexer.normalize (Text.unlines ls) ++ Script.Lexer.normalize rest := by
  refine Script.Lexer.normalize_append ?_
  cases ls using List.reverseRecOn with
  | nil => simp [Text.unlines]
  | append_singleton ls l => simp [Text.unlines]

/-- A closed line inside a number of blocks is a logical line. -/
theorem logicalLines_margin (hline : ∃ c s, line = c :: s ∧ BeginsLine c) (hu : Text.Unbroken line)
    (h : Cursor.run {} line = some p) (he : p.endsLine = true) :
    logicalLines (.margin 0)
        (Script.Lexer.normalize (Text.unlines [margin depth ++ line]) ++ rest) =
      (logicalLines (.margin 0) rest).map (⟨4 * depth, line⟩ :: ·) := by
  rw [unlines_margin hu, List.append_assoc, margin, logicalLines_spaces, Nat.zero_add,
    List.append_assoc]
  exact logicalLines_closed hline hu.1 h he

/-- The first line of a block. -/
theorem logicalLines_pass : logicalLines (.margin 0)
      (Script.Lexer.normalize (Text.unlines [margin depth ++ "pass".toList]) ++ rest) =
    (logicalLines (.margin 0) rest).map (⟨4 * depth, "pass".toList⟩ :: ·) :=
  logicalLines_margin (p := {})
    ⟨'p', "ass".toList, by decide, by decide, by decide, by decide, by decide, by decide⟩
    ⟨by decide, by decide⟩ (by decide) rfl

/-- A line without anything to read does not count. -/
theorem logicalLines_remark (hu : Text.Unbroken line) (h : Segment.isRemark line = true) :
    logicalLines (.margin 0)
        (Script.Lexer.normalize (Text.unlines [indented (margin depth) line]) ++ rest) =
      logicalLines (.margin 0) rest := by
  cases line with
  | nil => exact logicalLines_blank
  | cons c line =>
    obtain rfl : c = '#' := by simpa [Segment.isRemark] using h
    rw [indented_of_ne_nil (by simp), unlines_margin hu, List.append_assoc, margin, logicalLines_spaces,
      List.append_assoc, List.cons_append]
    exact logicalLines_comment fun hc => hu.1 (List.mem_cons_of_mem _ hc)

/-- A call with one argument that is closed. -/
theorem run_call {name argument : List Char} {q : Cursor}
    (hname : Cursor.run {} name = some ⟨.code, 1⟩) (h : Cursor.run ⟨.code, 1⟩ argument = some q)
    (hq : q.next ')' = some {}) : Cursor.run {} (name ++ argument ++ [')']) = some {} := by
  rw [Cursor.run_append, Cursor.run_append, hname, Option.bind_some, h, Option.bind_some,
    Cursor.run_cons, hq]
  rfl

theorem beginsLine_of_isRemark (hline : line.head?.any Text.isBlank = false)
    (h : Segment.isRemark line = false) : ∃ c s, line = c :: s ∧ BeginsLine c := by
  cases line with
  | nil => cases h
  | cons c line =>
    have hc : Text.isBlank c = false := hline
    refine ⟨c, line, rfl, ?_, ?_, ?_, ?_, ?_⟩
    case refine_5 => simpa [Segment.isRemark] using h
    all_goals
      rintro rfl
      revert hc
      decide

theorem exists_trim {q : Char → Bool} {c : Char} (hc : q c = false) (s : List Char) :
    ∃ t, Text.trim q (c :: s) = c :: t := by
  unfold Text.trim Text.trimEnd
  rw [List.dropWhile_cons_of_neg (by simp [hc]), List.reverse_cons, List.dropWhile_append]
  split
  · exact ⟨[], by simp [hc]⟩
  · exact ⟨_, by rw [List.reverse_append]; rfl⟩

/-- A line that opens a block holds more than a comment. -/
theorem isRemark_of_opens (hline : line.head?.any Text.isBlank = false)
    (h : Listing.opens [line] = true) : Segment.isRemark line = false := by
  cases line with
  | nil => simp [Listing.opens, lastLine, Text.isBlankText] at h
  | cons c line =>
    by_contra hremark
    obtain rfl : c = '#' := by simpa [Segment.isRemark] using hremark
    have hhash : Text.isBlank '#' = false := hline
    have hlast : lastLine ['#' :: line] = '#' :: line := by
      simp [lastLine, Text.isBlankText, hhash]
    obtain ⟨t, ht⟩ := exists_trim hhash line
    simp only [Listing.opens, hlast, Opening.opensBlock, ht, Bool.and_false] at h
    cases h

theorem innerIndent_margin (hline : line.head?.any Text.isBlank = false) :
    innerIndent (margin depth) [line] = margin (depth + 1) := by
  have hblanks : Text.leadingBlanks (lastLine [line]) = [] := by
    unfold lastLine Text.leadingBlanks
    by_cases hblank : Text.isBlankText line = true
    · simp [hblank]
    · cases line with
      | nil => simp [Text.isBlankText] at hblank
      | cons c line =>
        have hc : Text.isBlank c = false := hline
        simp [hblank, hc]
  rw [innerIndent, hblanks, List.append_nil, margin, margin, Nat.mul_succ, List.replicate_add]
  rfl

theorem trimEnd_statementLine (h : statementLines s.code = [s.statementLine]) :
    Text.trimEnd Text.isBlank s.statementLine = s.statementLine := by
  have hjoin := Text.joinWith_cutAt '\n' (Text.trimEnd Text.isBlank
    (Text.joinWith ['\n'] (Text.dedent (expressionLines s.code))))
  change Text.joinWith ['\n'] (statementLines s.code) = _ at hjoin
  rw [h] at hjoin
  change s.statementLine = _ at hjoin
  rw [hjoin, Text.trimEnd_trimEnd]

/-- A call that stands on one line is a logical line. -/
theorem logicalLines_call (depth : Nat) (rest name : List Char) {argument : List Char} {q : Cursor}
    (hfirst : name.head? = some '_') (hu : Text.Unbroken (name ++ argument ++ [')']))
    (hname : Cursor.run {} name = some ⟨.code, 1⟩) (h : Cursor.run ⟨.code, 1⟩ argument = some q)
    (hq : q.next ')' = some {}) :
    logicalLines (.margin 0) (Script.Lexer.normalize (Text.unlines
        [indented (margin depth) (name ++ argument ++ [')'])]) ++ rest) =
      (logicalLines (.margin 0) rest).map (⟨4 * depth, name ++ argument ++ [')']⟩ :: ·) := by
  rw [indented_of_ne_nil (by simp)]
  refine logicalLines_margin ?_ hu (run_call hname h hq) rfl
  obtain ⟨t, rfl⟩ := List.head?_eq_some_iff.1 hfirst
  exact ⟨'_', _, rfl, by decide, by decide, by decide, by decide, by decide⟩

theorem unlines_expressionLines : Text.unlines (expressionLines s.code) = s.expression ++ ['\n'] := by
  unfold expressionLines Text.lines
  rw [← Text.joinWith_append_newline (Text.cutAt_ne_nil _ _), Text.joinWith_cutAt]
  rfl

/-- The text of a call that writes an expression. -/
theorem normalize_emit (depth : Nat) (rest : List Char) :
    Script.Lexer.normalize (Text.unlines
        (indented (margin depth) "_tpl_emit((".toList :: expressionLines s.code ++
          [indented (margin depth) "))".toList])) ++ rest =
      margin depth ++ ("_tpl_emit((".toList ++ '\n' :: (Script.Lexer.normalize (s.expression ++ ['\n']) ++
        (margin depth ++ "))".toList ++ '\n' :: rest))) := by
  have hlines : Text.unlines (indented (margin depth) "_tpl_emit((".toList :: expressionLines s.code ++
      [indented (margin depth) "))".toList]) =
      Text.unlines [margin depth ++ "_tpl_emit((".toList] ++ ((s.expression ++ ['\n']) ++
        Text.unlines [margin depth ++ "))".toList]) := by
    rw [← unlines_expressionLines, indented_of_ne_nil (by decide), indented_of_ne_nil (by decide)]
    simp [Text.unlines]
  have hexpression : Script.Lexer.normalize ((s.expression ++ ['\n']) ++
      Text.unlines [margin depth ++ "))".toList]) =
      Script.Lexer.normalize (s.expression ++ ['\n']) ++ (margin depth ++ ("))".toList ++ ['\n'])) := by
    rw [Script.Lexer.normalize_append (by simp), unlines_margin ⟨by decide, by decide⟩]
  rw [hlines, normalize_unlines, unlines_margin ⟨by decide, by decide⟩, hexpression]
  simp only [List.append_assoc, List.cons_append, List.nil_append]

/-- An expression in the call that writes it is one logical line. -/
theorem logicalLines_emit (depth : Nat) (rest : List Char) (hs : IsClosed s.expression) :
    logicalLines (.margin 0) (Script.Lexer.normalize (Text.unlines
        (indented (margin depth) "_tpl_emit((".toList :: expressionLines s.code ++
          [indented (margin depth) "))".toList])) ++ rest) =
      (logicalLines (.margin 0) rest).map (⟨4 * depth, "_tpl_emit((\n".toList ++
        Script.Lexer.normalize (s.expression ++ ['\n']) ++ margin depth ++ "))".toList⟩ :: ·) := by
  rw [normalize_emit]
  generalize hN : Script.Lexer.normalize (s.expression ++ ['\n']) = code
  have hrun := hs.run_newline
  rw [hN] at hrun
  -- The reader is at two open brackets before the expression, and again behind it.
  have hinner : Cursor.run {} ('\n' :: code) = some {} := hrun
  have hclose : Cursor.run ⟨.code, 2⟩ (margin depth ++ "))".toList) = some {} := by
    rw [Cursor.run_append, margin, Cursor.run_spaces]
    decide
  have hfeed : '\n' ∉ margin depth ++ "))".toList :=
    (Text.unbroken_append.2 ⟨unbroken_margin depth, by decide, by decide⟩).1
  calc
    _ = logicalLines (.margin (0 + 4 * depth)) ('_' :: ("tpl_emit((".toList ++
          (('\n' :: code) ++ ((margin depth ++ "))".toList) ++ '\n' :: rest)))) := by
      rw [← logicalLines_spaces]
      simp [margin]
    _ = logicalLines (.line (0 + 4 * depth) ['_'] {}) ("tpl_emit((".toList ++
          (('\n' :: code) ++ ((margin depth ++ "))".toList) ++ '\n' :: rest))) :=
      logicalLines_first ⟨by decide, by decide, by decide, by decide, by decide⟩ rfl
    _ = logicalLines (.line (0 + 4 * depth) ("tpl_emit((".toList.reverse ++ ['_']) ⟨.code, 2⟩)
          (('\n' :: code) ++ ((margin depth ++ "))".toList) ++ '\n' :: rest)) :=
      logicalLines_run (p := {}) (q := ⟨.code, 2⟩) (s := "tpl_emit((".toList) (d := 0) (by decide)
        (.inl (by decide))
    _ = logicalLines (.line (0 + 4 * depth)
          (('\n' :: code).reverse ++ ("tpl_emit((".toList.reverse ++ ['_'])) ⟨.code, 2⟩)
          ((margin depth ++ "))".toList) ++ '\n' :: rest) :=
      logicalLines_run (p := {}) (d := 2) hinner (.inr (by decide))
    _ = logicalLines (.line (0 + 4 * depth) ((margin depth ++ "))".toList).reverse ++
          (('\n' :: code).reverse ++ ("tpl_emit((".toList.reverse ++ ['_']))) {}) ('\n' :: rest) :=
      logicalLines_run (p := ⟨.code, 2⟩) (d := 0) hclose (.inl hfeed)
    _ = _ := by
      rw [logicalLines_newline rfl]
      simp

/-- A statement on one line is a logical line unless there is nothing to read; the block that it opens
begins one step further in. -/
theorem logicalLines_statement (depth : Nat) (rest : List Char)
    (hline : line.head?.any Text.isBlank = false)
    (hend : Text.trimEnd Text.isBlank line = line) (hu : Text.Unbroken line) (hs : IsClosed line) :
    logicalLines (.margin 0)
        (Script.Lexer.normalize (Text.unlines (statementText (margin depth) [line])) ++ rest) =
      (logicalLines (.margin 0) rest).map
        (((if Segment.isRemark line then none else some line).toList.map (⟨4 * depth, ·⟩) ++
          if opens [line] then [⟨4 * (depth + 1), "pass".toList⟩] else []) ++ ·) := by
  obtain ⟨p, hp, he⟩ := hs
  rw [Script.Lexer.normalize_of_not_mem hu.2] at hp
  have hread (hremark : Segment.isRemark line = false) (rest : List Char) :
      logicalLines (.margin 0)
          (Script.Lexer.normalize (Text.unlines [indented (margin depth) line]) ++ rest) =
        (logicalLines (.margin 0) rest).map (⟨4 * depth, line⟩ :: ·) := by
    obtain ⟨c, t, rfl, hc⟩ := beginsLine_of_isRemark hline hremark
    exact logicalLines_margin ⟨c, t, rfl, hc⟩ hu hp he
  by_cases hopens : opens [line] = true
  · have hremark := isRemark_of_opens hline hopens
    have htext : Text.unlines (statementText (margin depth) [line]) =
        Text.unlines [indented (margin depth) line] ++
          Text.unlines [margin (depth + 1) ++ "pass".toList] := by
      simp [statementText, hend, hopens, innerIndent_margin hline, Text.unlines]
    rw [htext, normalize_unlines, List.append_assoc, hread hremark, logicalLines_pass]
    simp [hremark, hopens, Function.comp_def]
  · have htext : statementText (margin depth) [line] = [indented (margin depth) line] := by
      simp [statementText, hend, hopens]
    rw [htext]
    by_cases hremark : Segment.isRemark line = true
    · rw [logicalLines_remark hu hremark]
      simp [hremark, hopens]
    · rw [hread (by simpa using hremark)]
      simp [hremark, hopens]

/-- The lines of a segment read as its logical lines, whatever stands behind them. -/
theorem logicalLines_text (hs : s.StandsAlone) :
    logicalLines (.margin 0)
        (Script.Lexer.normalize (Text.unlines (s.text (margin depth) index) ++ rest)) =
      (logicalLines (.margin 0) (Script.Lexer.normalize rest)).map
        (Listing.logicalLines depth index s ++ ·) := by
  rw [normalize_unlines]
  unfold Segment.StandsAlone at hs
  cases hkind : s.kind with
  | comment | error =>
    simp [Segment.text, Listing.logicalLines, Segment.logicalText, Segment.opens, hkind, Text.unlines,
      Script.Lexer.normalize]
  | literal =>
    obtain ⟨q, hq, hclose⟩ := Cursor.run_encode (d := 0) s.code.toList
    have hcall := logicalLines_call depth (Script.Lexer.normalize rest) "_tpl_write(".toList
      (by decide) (Text.unbroken_append.2 ⟨Text.unbroken_append.2
        ⟨⟨by decide, by decide⟩, Text.unbroken_encode _⟩, ⟨by decide, by decide⟩⟩) (by decide) hq hclose
    simpa [Segment.text, Listing.logicalLines, Segment.logicalText, Segment.opens, hkind] using hcall
  | deferred =>
    have hcall := logicalLines_call depth (Script.Lexer.normalize rest) "_tpl_defer(".toList
      (by decide) (Text.unbroken_append.2 ⟨Text.unbroken_append.2
        ⟨⟨by decide, by decide⟩, Text.unbroken_natText _⟩, ⟨by decide, by decide⟩⟩) (by decide)
      (Cursor.run_natText index) (by decide)
    simpa [Segment.text, Listing.logicalLines, Segment.logicalText, Segment.opens, hkind] using hcall
  | interpolation =>
    rw [hkind] at hs
    have hemit := logicalLines_emit depth (Script.Lexer.normalize rest) hs
    simpa [Segment.text, Listing.logicalLines, Segment.logicalText, Segment.opens, hkind] using hemit
  | statement =>
    rw [hkind] at hs
    obtain ⟨hline, hreturn, hfirst, hclosed⟩ := hs
    have hmem : s.statementLine ∈ statementLines s.code := hline ▸ List.mem_singleton_self _
    have hfeed : '\n' ∉ s.statementLine := Text.not_mem_of_mem_cutAt hmem
    have hread := logicalLines_statement depth (Script.Lexer.normalize rest) hfirst
      (trimEnd_statementLine hline) ⟨hfeed, hreturn⟩ hclosed
    by_cases hrole : role (statementLines s.code) = .closer
    · simp [Segment.text, Listing.logicalLines, Segment.logicalText, Segment.opens, hkind, hrole,
        Text.unlines, Script.Lexer.normalize]
    · simpa [Segment.text, Listing.logicalLines, Segment.logicalText, Segment.opens, hkind, hrole,
        ← hline] using hread

end

end Stencil
