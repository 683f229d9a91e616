import Mathlib.Data.List.DropRight
import Stencil.Proofs.TokenPieces

/-!
# The tokens of a line

The lexer and the reader of marks take a line apart in step: a token is read from a piece of the line in which
the other reader finds marks of its own, and the marks end in a colon if the token is one. So when the
lexer reads a line to its end, the last of its tokens is a colon if and only if the last of its marks is, and
the marks leave no bracket open.
-/

namespace Stencil

namespace Script

open Opening Lexer

variable {c : Char} {s rest : List Char} {t : Token} {ms ns : List Mark} {ts : List Token}

/-- A token that is not about the arrangement of lines. -/
def Token.isSignificant (t : Token) : Bool :=
  match t.kind with
  | .name | .number _ | .text _ | .operator => true
  | .newline | .indent | .dedent | .finish => false

/-- The operator `:`. -/
def Token.IsColon (t : Token) : Prop := t.kind = .operator ∧ t.text = ":"

theorem Token.isColon_operator (op : List Char) (line level : Nat) :
    Token.IsColon { kind := .operator, text := String.ofList op, line, level } ↔ op = [':'] := by
  constructor
  · intro h
    simpa using congrArg String.toList h.2
  · rintro rfl
    exact ⟨rfl, rfl⟩

/-- A token is read from the head of a line, where it leaves the rest, and the reader of marks finds the
marks in it. -/
structure Token.ReadFrom (t : Token) (s : List Char) (ms : List Mark) (rest : List Char) : Prop where
  significant : t.isSignificant = true
  suffix : rest <:+ s
  marks_eq : marks s = (marks rest).map (ms ++ ·)
  ne_nil : ms ≠ []
  /-- Only a colon ends in a colon. -/
  colon_iff : ms.getLast? = some .colon ↔ t.IsColon

theorem Token.readFrom_of_plain {piece : List Char} (ht : t.isSignificant = true) (hcolon : ¬ t.IsColon)
    (hpiece : Plain piece) (hne : piece ≠ []) :
    t.ReadFrom (piece ++ rest) (List.replicate piece.length .other) rest := by
  obtain ⟨n, hn⟩ := Nat.exists_eq_succ_of_ne_zero (mt List.length_eq_zero_iff.1 hne)
  refine ⟨ht, List.suffix_append .., marks_plain hpiece rest, by simp [hne], iff_of_false ?_ hcolon⟩
  rw [hn, List.replicate_succ', List.getLast?_concat]
  simp

/-- The tokens that are not about the arrangement of lines. -/
def significant (ts : List Token) : List Token := ts.filter Token.isSignificant

/-- The last of the tokens, without those about the arrangement of lines, is a colon. -/
def EndsInColon (ts : List Token) : Prop := ∃ t, (significant ts).getLast? = some t ∧ t.IsColon

/-- The marks of a line stand for its tokens. -/
structure Agrees (ts : List Token) (ms : List Mark) : Prop where
  nil_iff : significant ts = [] ↔ ms = []
  colon_iff : EndsInColon ts ↔ ms.getLast? = some .colon

theorem agrees_nil (h : significant ts = []) : Agrees ts [] :=
  ⟨iff_of_true h rfl, iff_of_false (by rintro ⟨t, ht, -⟩; simp [h] at ht) (by simp)⟩

theorem Agrees.cons (ht : t.ReadFrom s ms rest) (h : Agrees ts ns) : Agrees (t :: ts) (ms ++ ns) := by
  have hcons : significant (t :: ts) = t :: significant ts := List.filter_cons_of_pos ht.significant
  refine ⟨iff_of_false (by simp [hcons]) (by simp [ht.ne_nil]), ?_⟩
  unfold EndsInColon
  rw [hcons]
  by_cases hts : significant ts = []
  · obtain rfl := h.nil_iff.1 hts
    rw [hts, List.append_nil, ht.colon_iff]
    simp
  · have hns : ns ≠ [] := mt h.nil_iff.2 hts
    obtain ⟨m, ns, rfl⟩ := List.exists_cons_of_ne_nil hns
    rw [List.getLast?_append_cons, ← h.colon_iff, EndsInColon]
    obtain ⟨u, us, hus⟩ := List.exists_cons_of_ne_nil hts
    rw [hus, List.getLast?_cons_cons]

namespace Lexer

variable {st st' : State} {cs : List Char} {fuel : Nat} {e : LexicalError}

/-! ## Items -/

/-- A token is read from a line that begins with `c`, where it leaves the rest and opens the brackets that
the marks open. -/
structure Advances (st : State) (c : Char) (s : List Char) (t : Token) (st' : State) (ms : List Mark)
    (rest : List Char) : Prop where
  item_eq : item st c (s ++ ['\n']) = (.token t st', rest ++ ['\n'])
  readFrom : t.ReadFrom (c :: s) ms rest
  indents_eq : st'.indents = st.indents
  depth_eq : (st'.brackets.length : Int) = st.brackets.length + bracketDepth ms

/-- A line that begins with `c` is refused there, or a token is read. -/
def Reads (st : State) (c : Char) (s : List Char) : Prop :=
  (∃ e r, item st c (s ++ ['\n']) = (.error e, r)) ∨ ∃ t st' ms rest, Advances st c s t st' ms rest

theorem bracket_cases (h : st.bracket c = some st') :
    ((c = '(' ∨ c = '[' ∨ c = '\x7b') ∧ st'.indents = st.indents ∧
        (st'.brackets.length : Int) = st.brackets.length + bracketDepth [.openBracket]) ∨
      ((c = ')' ∨ c = ']' ∨ c = '\x7d') ∧ st'.indents = st.indents ∧
        (st'.brackets.length : Int) = st.brackets.length + bracketDepth [.closeBracket]) ∨
      ¬ (c = '(' ∨ c = '[' ∨ c = '\x7b') ∧ ¬ (c = ')' ∨ c = ']' ∨ c = '\x7d') ∧ st' = st := by
  unfold State.bracket at h
  simp only [Bool.or_eq_true, beq_iff_eq, or_assoc] at h
  split at h
  · rename_i hopen
    split at h
    · cases h
    · obtain rfl := Option.some.inj h
      exact .inl ⟨hopen, rfl, by simp [bracketDepth]⟩
  rename_i hopen
  split at h
  · rename_i hclose
    split at h
    · rename_i opener line outer hbrackets
      split at h
      · obtain rfl := Option.some.inj h
        refine .inr (.inl ⟨hclose, rfl, ?_⟩)
        simp only [hbrackets, List.length_cons, bracketDepth, List.foldl_cons, List.foldl_nil]
        omega
      · cases h
    · cases h
  · rename_i hclose
    exact .inr (.inr ⟨hopen, hclose, (Option.some.inj h).symm⟩)

theorem not_mem_marked_of_operator (hplain : c ≠ '#' ∧ c ≠ '\n' ∧ c ≠ '\\') (hspace : isSpace c = false)
    (hstart : textPrefix? (c :: s) = none) (hopen : c ≠ '(' ∧ c ≠ '[' ∧ c ≠ '\x7b')
    (hclose : c ≠ ')' ∧ c ≠ ']' ∧ c ≠ '\x7d') (hcolon : c ≠ ':') : c ∉ marked := by
  have hquote : c ≠ '\'' ∧ c ≠ '"' := by
    constructor <;> rintro rfl <;> cases hstart
  simp only [isSpace, Bool.or_eq_false_iff, beq_eq_false_iff_ne] at hspace
  simp only [marked, List.mem_cons, List.not_mem_nil, or_false, not_or]
  exact ⟨hplain.1, hcolon, hplain.2.2, hplain.2.1, hspace.1.1, hspace.1.2, hspace.2, hquote.1,
    hquote.2, hopen.1, hopen.2.1, hopen.2.2, hclose.1, hclose.2.1, hclose.2.2⟩

/-- An operator of one character: a bracket, a colon, or what means nothing to the reader of marks. -/
theorem exists_readFrom_single (hplain : c ≠ '#' ∧ c ≠ '\n' ∧ c ≠ '\\') (hspace : isSpace c = false)
    (hstart : textPrefix? (c :: (s ++ ['\n'])) = none) (hnext : c = ':' → s.head? ≠ some '=')
    (hbracket : st.bracket c = some st') :
    ∃ ms, Token.ReadFrom { kind := .operator, text := String.ofList [c], line := st.line
                           level := st'.brackets.length } (c :: s) ms s ∧
      st'.indents = st.indents ∧ (st'.brackets.length : Int) = st.brackets.length + bracketDepth ms := by
  rcases bracket_cases hbracket with ⟨hc, hindents, hdepth⟩ | ⟨hc, hindents, hdepth⟩ | ⟨hopen, hclose, rfl⟩
  · refine ⟨[.openBracket], ⟨rfl, List.suffix_cons .., marks_open hc s, by simp, ?_⟩, hindents, hdepth⟩
    rw [Token.isColon_operator]
    rcases hc with rfl | rfl | rfl <;> decide
  · refine ⟨[.closeBracket], ⟨rfl, List.suffix_cons .., marks_close hc s, by simp, ?_⟩, hindents, hdepth⟩
    rw [Token.isColon_operator]
    rcases hc with rfl | rfl | rfl <;> decide
  by_cases hcolon : c = ':'
  · subst hcolon
    refine ⟨[.colon], ⟨rfl, List.suffix_cons .., marks_colon (hnext rfl), by simp, ?_⟩, rfl,
      by simp [bracketDepth]⟩
    rw [Token.isColon_operator]
    simp
  · have hmarked : c ∉ marked := by
      simp only [not_or] at hopen hclose
      exact not_mem_marked_of_operator hplain hspace hstart hopen hclose hcolon
    have hread := @Token.readFrom_of_plain s { kind := .operator, text := String.ofList [c]
                                               line := st'.line, level := st'.brackets.length } [c] rfl
      (by rw [Token.isColon_operator]; simpa using hcolon) (by simpa [Plain] using hmarked) (by simp)
    exact ⟨_, hread, rfl, by simp [bracketDepth]⟩

/-- Operators of more than one character are plain, except for `:=`. -/
theorem exists_readFrom_operator (hplain : c ≠ '#' ∧ c ≠ '\n' ∧ c ≠ '\\') (hspace : isSpace c = false)
    (hstart : textPrefix? (c :: (s ++ ['\n'])) = none) (hbracket : st.bracket c = some st') :
    ∃ ms rest, (c :: (s ++ ['\n'])).drop (operatorAt (c :: (s ++ ['\n']))).length = rest ++ ['\n'] ∧
      Token.ReadFrom { kind := .operator, text := String.ofList (operatorAt (c :: (s ++ ['\n'])))
                       line := st.line, level := st'.brackets.length } (c :: s) ms rest ∧
      st'.indents = st.indents ∧ (st'.brackets.length : Int) = st.brackets.length + bracketDepth ms := by
  have hsame (hc : c = ':' ∨ c ∉ marked) : st' = st := by
    rcases bracket_cases hbracket with ⟨h, -⟩ | ⟨h, -⟩ | ⟨-, -, h⟩
    · rcases h with rfl | rfl | rfl <;> exact absurd hc (by decide)
    · rcases h with rfl | rfl | rfl <;> exact absurd hc (by decide)
    · exact h
  have hsplit : c :: s ++ ['\n'] = operatorAt (c :: (s ++ ['\n'])) ++
      (c :: (s ++ ['\n'])).drop (operatorAt (c :: (s ++ ['\n']))).length :=
    (operatorAt_append_drop _).symm
  rcases operatorAt_cases c (s ++ ['\n']) with ⟨hop, hassign⟩ | ⟨rfl, hop, -⟩ | ⟨hop, hlength⟩
  · have hnext : c = ':' → s.head? ≠ some '=' := by
      intro hc hnext
      obtain ⟨t, rfl⟩ := List.head?_eq_some_iff.1 hnext
      exact hassign ⟨hc, rfl⟩
    obtain ⟨ms, hread, hindents, hdepth⟩ := exists_readFrom_single hplain hspace hstart hnext hbracket
    rw [hop]
    exact ⟨ms, s, rfl, hread, hindents, hdepth⟩
  · rw [hop] at hsplit ⊢
    obtain ⟨rest, hrest, hline⟩ := exists_append_newline hsplit (by decide)
    obtain rfl := hsame (.inl rfl)
    refine ⟨[.other], rest, hrest, ?_, rfl, by simp [bracketDepth]⟩
    rw [hline]
    refine ⟨rfl, List.suffix_append .., marks_assign rest, by simp, iff_of_false (by simp) ?_⟩
    rw [Token.isColon_operator]
    decide
  · obtain ⟨rest, hrest, hline⟩ := exists_append_newline hsplit hop.newline_not_mem
    generalize operatorAt (c :: (s ++ ['\n'])) = op at *
    cases op with
    | nil => simp at hlength
    | cons d op =>
      obtain ⟨rfl, -⟩ := List.cons.inj hline
      obtain rfl := hsame (.inr (hop c List.mem_cons_self))
      have hread := @Token.readFrom_of_plain rest { kind := .operator, text := String.ofList (c :: op)
                                                    line := st'.line, level := st'.brackets.length }
        (c :: op) rfl (by rw [Token.isColon_operator]; rintro ⟨⟩; simp at hlength) hop (by simp)
      rw [← hline] at hread
      exact ⟨_, rest, hrest, hread, rfl, by rw [bracketDepth_replicate, Int.add_zero]⟩

section
variable (hplain : c ≠ '#' ∧ c ≠ '\n' ∧ c ≠ '\\')
include hplain

theorem reads_text {mark : List Char} (hs : '\n' ∉ c :: s)
    (hstart : textPrefix? (c :: (s ++ ['\n'])) = some mark) : Reads st c s := by
  obtain ⟨quote, tail, hsplit, hquote, hmark⟩ := textPrefix?_eq_some hstart
  have hpiece : '\n' ∉ mark ++ [quote] := by
    rw [List.mem_append, not_or]
    refine ⟨hmark.newline_not_mem, ?_⟩
    rcases hquote with rfl | rfl <;> decide
  obtain ⟨tail, rfl, hline⟩ := exists_append_newline
    (show c :: s ++ ['\n'] = mark ++ [quote] ++ tail by simpa using hsplit) hpiece
  rw [List.append_assoc, List.singleton_append] at hline
  have hdrop : (c :: (s ++ ['\n'])).drop mark.length = quote :: (tail ++ ['\n']) := by
    rw [hsplit, List.drop_left]
  have htail : '\n' ∉ tail := fun h => hs (hline ▸ by simp [h])
  have hitem := item.eq_def st c (s ++ ['\n'])
  simp only [beq_iff_eq, hplain, if_false, hstart, hdrop] at hitem
  cases hread : readText mark (quote :: (tail ++ ['\n'])) with
  | none =>
    rw [hread] at hitem
    exact .inl ⟨_, _, hitem⟩
  | some r =>
    rw [hread] at hitem
    obtain ⟨l, after⟩ := r
    obtain ⟨rest, rfl, hsuffix, hmarks⟩ := past_readText hquote htail hread
    refine .inr ⟨_, _, List.replicate mark.length .other ++ [.other], rest, hitem, ?_, rfl, ?_⟩
    · refine ⟨rfl, ?_, ?_, by simp, iff_of_false (by simp) (by simp [Token.IsColon])⟩
      · rw [hline]
        exact hsuffix.trans ((List.suffix_cons ..).trans (List.suffix_append ..))
      · rw [hline, marks_plain hmark, hmarks, Option.map_map]
        simp [Function.comp_def]
    · rw [bracketDepth_append, bracketDepth_replicate]
      simp [bracketDepth]

theorem reads_number (hstart : textPrefix? (c :: (s ++ ['\n'])) = none)
    (hname : mayBeginName c = false)
    (hnumber : (Number.isDigitChar c || (c == '.' &&
      ((s ++ ['\n']).head?.map Number.isDigitChar).getD false)) = true) : Reads st c s := by
  have hc : Number.isDigitChar c = true ∨ c = '.' := by
    simp only [Bool.or_eq_true, Bool.and_eq_true, beq_iff_eq] at hnumber
    exact hnumber.imp_right And.left
  have hmarked : c ∉ marked := by
    rcases hc with hc | rfl
    · exact not_mem_marked isDigitClass_decimal.plain hc
    · decide
  have hitem := item.eq_def st c (s ++ ['\n'])
  simp only [beq_iff_eq, hplain, if_false, hstart, hname, hnumber, Bool.false_eq_true, if_true] at hitem
  cases hread : readNumber (c :: (s ++ ['\n'])) with
  | none =>
    rw [hread] at hitem
    exact .inl ⟨_, _, hitem⟩
  | some r =>
    rw [hread] at hitem
    obtain ⟨n, after⟩ := r
    obtain ⟨piece, hsplit, hpiece⟩ := past_readNumber hc hread
    obtain ⟨rest, rfl, rfl⟩ := exists_append_newline hsplit hpiece.newline_not_mem
    refine .inr ⟨_, _, _, rest, hitem,
      Token.readFrom_of_plain rfl ?_ (plain_cons.2 ⟨hmarked, hpiece⟩) ?_, rfl, ?_⟩
    · simp [Token.IsColon]
    · simp
    · rw [bracketDepth_replicate, Int.add_zero]

theorem reads_operator (hspace : isSpace c = false)
    (hstart : textPrefix? (c :: (s ++ ['\n'])) = none) (hname : mayBeginName c = false)
    (hnumber : (Number.isDigitChar c || (c == '.' &&
      ((s ++ ['\n']).head?.map Number.isDigitChar).getD false)) = false) : Reads st c s := by
  have hitem := item.eq_def st c (s ++ ['\n'])
  simp only [beq_iff_eq, hplain, if_false, hstart, hname, hnumber, Bool.false_eq_true] at hitem
  cases hbracket : st.bracket c with
  | none =>
    rw [hbracket] at hitem
    exact .inl ⟨_, _, hitem⟩
  | some st' =>
    rw [hbracket] at hitem
    dsimp only at hitem
    split at hitem
    · exact .inl ⟨_, _, hitem⟩
    obtain ⟨ms, rest, hrest, hread, hindents, hdepth⟩ :=
      exists_readFrom_operator hplain hspace hstart hbracket
    rw [hrest] at hitem
    exact .inr ⟨_, st', ms, rest, hitem, hread, hindents, hdepth⟩

end

theorem mayContinueName_of_mayBeginName (h : mayBeginName c = true) : mayContinueName c = true := by
  unfold mayBeginName at h
  unfold mayContinueName
  by_cases hc : c.toNat ≥ 128
  · simp [hc]
  · have hlt : c.toNat < 128 := Nat.lt_of_not_le hc
    simp only [hc, decide_false, Bool.false_or, Text.isNameStart, Text.isNamePart, hlt, if_true] at h ⊢
    rw [Bool.or_eq_true, Bool.or_eq_true] at h
    simp only [Bool.or_eq_true]
    tauto

/-- A name is read up to the first character that is part of no name. -/
theorem item_eq_name (hstart : textPrefix? (c :: cs) = none)
    (hbegin : mayBeginName c = true) (hname : Text.isName (nameAt (c :: cs)) = true) :
    item st c cs =
      (.token { kind := .name, text := String.ofList (nameAt (c :: cs)), line := st.line
                level := st.brackets.length } st, (c :: cs).drop (nameAt (c :: cs)).length) := by
  have hmarked := not_mem_marked (p := mayBeginName) (by decide) hbegin
  simp only [marked, List.mem_cons, not_or] at hmarked
  unfold item
  simp [hmarked, hstart, hbegin, hname]

theorem item_eq_error (hstart : textPrefix? (c :: cs) = none)
    (hbegin : mayBeginName c = true) (hname : Text.isName (nameAt (c :: cs)) = false) :
    item st c cs = (.error st.hardError, []) := by
  have hmarked := not_mem_marked (p := mayBeginName) (by decide) hbegin
  simp only [marked, List.mem_cons, not_or] at hmarked
  unfold item
  simp [hmarked, hstart, hbegin, hname]

theorem reads_name (hstart : textPrefix? (c :: (s ++ ['\n'])) = none)
    (hbegin : mayBeginName c = true) : Reads st c s := by
  by_cases hname : Text.isName (nameAt (c :: (s ++ ['\n']))) = true
  case neg => exact .inl ⟨_, _, item_eq_error hstart hbegin (by simpa using hname)⟩
  have hitem := @item_eq_name c st _ hstart hbegin hname
  have hsplit := append_drop_takeWhile mayContinueName (c :: (s ++ ['\n']))
  have hpiece : Plain (nameAt (c :: (s ++ ['\n']))) :=
    fun _ hc => mayContinueName_not_mem (List.mem_takeWhile_imp hc)
  have hne : nameAt (c :: (s ++ ['\n'])) ≠ [] := by
    rw [nameAt, List.takeWhile_cons_of_pos (mayContinueName_of_mayBeginName hbegin)]
    simp
  obtain ⟨rest, hrest, hline⟩ := exists_append_newline (s := c :: s) hsplit.symm hpiece.newline_not_mem
  change _ = nameAt (c :: (s ++ ['\n'])) ++ rest at hline
  rw [nameAt, hrest] at hitem
  have hread := @Token.readFrom_of_plain rest
    { kind := .name, text := String.ofList (nameAt (c :: (s ++ ['\n']))), line := st.line
      level := st.brackets.length } _ rfl (by simp [Token.IsColon]) hpiece hne
  rw [← hline] at hread
  refine .inr ⟨_, st, _, rest, hitem, hread, rfl, ?_⟩
  rw [bracketDepth_replicate, Int.add_zero]

/-- What begins with neither a space nor a comment is refused, or it is read as a token. -/
theorem reads_of_ne (hs : '\n' ∉ c :: s) (hspace : isSpace c = false) (hcomment : c ≠ '#') :
    Reads st c s := by
  rw [List.mem_cons, not_or] at hs
  by_cases hslash : c = '\\'
  · subst hslash
    cases s with
    | nil => exact .inl ⟨_, _, rfl⟩
    | cons d s =>
      refine .inl ⟨st.softError, [], ?_⟩
      rw [List.mem_cons, not_or] at hs
      unfold item
      simp [Ne.symm hs.2.1]
  have hplain : c ≠ '#' ∧ c ≠ '\n' ∧ c ≠ '\\' := ⟨hcomment, Ne.symm hs.1, hslash⟩
  cases hstart : textPrefix? (c :: (s ++ ['\n'])) with
  | some mark => exact reads_text hplain (by simp [hs]) hstart
  | none =>
    cases hname : mayBeginName c with
    | true => exact reads_name hstart hname
    | false =>
      cases hnumber : (Number.isDigitChar c || (c == '.' &&
        ((s ++ ['\n']).head?.map Number.isDigitChar).getD false)) with
      | true => exact reads_number hplain hstart hname hnumber
      | false => exact reads_operator hplain hspace hstart hname hnumber

/-! ## The run through a line -/

/-- What a run gives from an item on. -/
def fromItem (fuel : Nat) : Item × List Char → List Token × Option LexicalError
  | (.token t st, rest) => (t :: (run fuel false st rest).1, (run fuel false st rest).2)
  | (.lineEnd t st, rest) => (t :: (run fuel true st rest).1, (run fuel true st rest).2)
  | (.skip st, rest) => run fuel false st rest
  | (.error e, _) => ([], some e)

/-- What a run gives behind the spaces before an item. -/
def afterSpaces (fuel : Nat) (st : State) : List Char → List Token × Option LexicalError
  | [] =>
    match st.openLine with
    | some line => ([], some ⟨line, false, some line⟩)
    | none => ([{ kind := .finish, line := st.line }], none)
  | c :: cs => fromItem fuel (item st c cs)

theorem run_zero (atStart : Bool) (st : State) (s : List Char) :
    run 0 atStart st s = ([], some st.softError) := rfl

theorem run_eq (fuel : Nat) (st : State) (s : List Char) :
    run (fuel + 1) false st s = afterSpaces fuel st (s.dropWhile isSpace) := rfl

theorem run_item (hc : isSpace c = false) :
    run (fuel + 1) false st (c :: cs) = fromItem fuel (item st c cs) := by
  rw [run_eq, List.dropWhile_cons_of_neg (by simp [hc]), afterSpaces]

theorem run_token (hc : isSpace c = false) (h : item st c cs = (.token t st', rest)) :
    run (fuel + 1) false st (c :: cs) =
      (t :: (run fuel false st' rest).1, (run fuel false st' rest).2) := by
  rw [run_item hc, h, fromItem]

theorem run_lineEnd (hc : isSpace c = false) (h : item st c cs = (.lineEnd t st', rest)) :
    run (fuel + 1) false st (c :: cs) =
      (t :: (run fuel true st' rest).1, (run fuel true st' rest).2) := by
  rw [run_item hc, h, fromItem]

theorem run_skip (hc : isSpace c = false) (h : item st c cs = (.skip st', rest)) :
    run (fuel + 1) false st (c :: cs) = run fuel false st' rest := by
  rw [run_item hc, h, fromItem]

theorem run_error (hc : isSpace c = false) (h : item st c cs = (.error e, rest)) :
    run (fuel + 1) false st (c :: cs) = ([], some e) := by
  rw [run_item hc, h, fromItem]

theorem run_dropWhile_isSpace (fuel : Nat) (st : State) (s : List Char) :
    run fuel false st (s.dropWhile isSpace) = run fuel false st s := by
  cases fuel with
  | zero => rfl
  | succ fuel =>
    rw [run_eq, run_eq, List.dropWhile_idempotent]

theorem dropWhile_newline (h : '\n' ∉ s) : (s ++ ['\n']).dropWhile (· != '\n') = ['\n'] := by
  rw [List.dropWhile_append_of_pos fun d hd => ?_]
  · rfl
  · have hne : d ≠ '\n' := fun hn => h (hn ▸ hd)
    simpa using hne

/-- A comment goes on to the line break. -/
theorem item_comment (h : '\n' ∉ s) : item st '#' (s ++ ['\n']) = (.skip st, ['\n']) := by
  unfold item
  simp [dropWhile_newline h]

/-- Behind a line a script ends, unless a bracket is open. -/
theorem run_nil (hrun : run fuel false st [] = (ts, none)) :
    st.brackets = [] ∧ significant ts = [] := by
  cases fuel with
  | zero => simp [run_zero] at hrun
  | succ fuel =>
    rw [run_eq, List.dropWhile_nil, afterSpaces] at hrun
    cases hbrackets : st.brackets with
    | nil =>
      simp only [State.openLine, hbrackets, List.head?_nil, Option.map_none, Prod.mk.injEq, and_true] at hrun
      exact ⟨rfl, by rw [← hrun]; rfl⟩
    | cons b bs => simp [State.openLine, hbrackets] at hrun

theorem run_start_nil (hindents : st.indents = []) (hrun : run fuel true st [] = (ts, none)) :
    significant ts = [] := by
  cases fuel with
  | zero => simp [run_zero] at hrun
  | succ fuel =>
    unfold run at hrun
    simp only [if_true, margin, indentation, hindents, List.headD_nil, List.nil_append,
      Bool.false_eq_true, if_false] at hrun
    exact (run_nil hrun).2

/-- A line break ends the line when no bracket is open. -/
theorem run_newline (hindents : st.indents = []) (hrun : run fuel false st ['\n'] = (ts, none)) :
    st.brackets = [] ∧ significant ts = [] := by
  cases fuel with
  | zero => simp [run_zero] at hrun
  | succ fuel =>
    cases hbrackets : st.brackets with
    | nil =>
      have hitem : item st '\n' [] = (.lineEnd { kind := .newline, line := st.line } st.nextLine, []) := by
        simp [item, hbrackets]
      rw [run_lineEnd rfl hitem] at hrun
      obtain ⟨rfl, hnone⟩ := Prod.mk.inj hrun
      refine ⟨rfl, ?_⟩
      change significant (run fuel true st.nextLine []).1 = []
      exact @run_start_nil _ st.nextLine _ hindents (Prod.ext rfl hnone)
    | cons b bs =>
      have hitem : item st '\n' [] = (.skip st.nextLine, []) := by
        simp [item, hbrackets]
      rw [run_skip rfl hitem] at hrun
      have := (run_nil hrun).1
      simp [State.nextLine, hbrackets] at this

theorem dropWhile_isSpace_append (s : List Char) :
    (s ++ ['\n']).dropWhile isSpace = s.dropWhile isSpace ++ ['\n'] := by
  rw [List.dropWhile_append]
  split
  · rename_i hspaces
    rw [List.isEmpty_iff.1 hspaces]
    rfl
  · rfl

/-- A line that is read to its end holds no more tokens, or it begins with a token and the rest is read. -/
theorem run_cases (hs : Text.Unbroken s) (hindents : st.indents = [])
    (hrun : run (fuel + 1) false st (s ++ ['\n']) = (ts, none)) :
    ((∀ c ∈ (s.dropWhile isSpace).head?, c = '#') ∧ st.brackets = [] ∧ significant ts = []) ∨
      ∃ c cs t us st' ms rest, s.dropWhile isSpace = c :: cs ∧ isSpace c = false ∧ c ≠ '#' ∧ ts = t :: us ∧
        Advances st c cs t st' ms rest ∧ run fuel false st' (rest ++ ['\n']) = (us, none) := by
  rw [← run_dropWhile_isSpace, dropWhile_isSpace_append] at hrun
  have hline : Text.Unbroken (s.dropWhile isSpace) := hs.of_subset (List.dropWhile_suffix _).subset
  have hhead := List.head?_dropWhile_not isSpace s
  generalize s.dropWhile isSpace = line at *
  cases line with
  | nil => exact .inl ⟨by simp, run_newline hindents hrun⟩
  | cons c cs =>
    have hspace : isSpace c = false := hhead
    by_cases hcomment : c = '#'
    · subst hcomment
      rw [List.cons_append, run_skip rfl (item_comment (Text.unbroken_cons.1 hline).2.1)] at hrun
      exact .inl ⟨by simp, run_newline hindents hrun⟩
    rcases @reads_of_ne c cs st hline.1 hspace hcomment with ⟨e, rest, hitem⟩ | ⟨t, st', ms, rest, h⟩
    · rw [List.cons_append, run_error hspace hitem] at hrun
      cases hrun
    · rw [List.cons_append, run_token hspace h.item_eq] at hrun
      obtain ⟨rfl, hnone⟩ := Prod.mk.inj hrun
      exact .inr ⟨c, cs, t, _, st', ms, rest, rfl, hspace, hcomment, rfl, h, Prod.ext rfl hnone⟩

/-- The tokens of a line agree with its marks, and the marks leave no bracket open that the line does not
close. -/
theorem exists_marks_of_run (hs : Text.Unbroken s) (hindents : st.indents = [])
    (hrun : run fuel false st (s ++ ['\n']) = (ts, none)) :
    ∃ ms, marks s = some ms ∧ Agrees ts ms ∧ bracketDepth ms + st.brackets.length = 0 := by
  induction fuel generalizing s st ts with
  | zero => simp [run_zero] at hrun
  | succ fuel ih =>
    rw [← marks_dropWhile_isSpace]
    have hline : Text.Unbroken (s.dropWhile isSpace) := hs.of_subset (List.dropWhile_suffix _).subset
    obtain ⟨hcomment, hbrackets, hts⟩ | ⟨c, cs, t, us, st', ms, rest, hsplit, -, -, rfl, h, hrest⟩ :=
      run_cases hs hindents hrun
    · refine ⟨[], ?_, agrees_nil hts, by simp [hbrackets, bracketDepth]⟩
      cases hsplit : s.dropWhile isSpace with
      | nil => rw [marks]
      | cons c cs =>
        rw [hsplit] at hline
        obtain rfl := hcomment c (by rw [hsplit]; rfl)
        exact marks_comment (Text.unbroken_cons.1 hline).2.2
    · rw [hsplit] at hline ⊢
      obtain ⟨ns, hns, hagrees, hzero⟩ := ih (hline.of_subset h.readFrom.suffix.subset)
        (h.indents_eq.trans hindents) hrest
      refine ⟨ms ++ ns, by rw [h.readFrom.marks_eq, hns, Option.map_some], hagrees.cons h.readFrom, ?_⟩
      have hdepth := h.depth_eq
      rw [bracketDepth_append]
      omega

/-- A line that is read to its end holds a token, or it holds a comment at most. -/
theorem significant_eq_nil_iff (hs : Text.Unbroken s) (hindents : st.indents = [])
    (hrun : run fuel false st (s ++ ['\n']) = (ts, none)) :
    significant ts = [] ↔ ∀ c ∈ (s.dropWhile isSpace).head?, c = '#' := by
  cases fuel with
  | zero => simp [run_zero] at hrun
  | succ fuel =>
    obtain ⟨hcomment, -, hts⟩ | ⟨c, cs, t, us, st', ms, rest, hsplit, -, hc, rfl, h, -⟩ :=
      run_cases hs hindents hrun
    · exact iff_of_true hts hcomment
    · refine iff_of_false ?_ fun hcomment => hc (hcomment c (by rw [hsplit]; rfl))
      rw [significant, List.filter_cons_of_pos h.readFrom.significant]
      simp

/-! ## Lines that begin with a name -/

theorem nameAt_append {w : List Char} (hw : ∀ c ∈ w, mayContinueName c = true) (s : List Char) :
    nameAt (w ++ s) = w ++ nameAt s := List.takeWhile_append_of_pos hw

theorem nameAt_of_head? (h : ∀ c ∈ s.head?, mayContinueName c = false) : nameAt s = [] := by
  cases s with
  | nil => rfl
  | cons c s => exact List.takeWhile_cons_of_neg (by simp [h c rfl])

theorem mayContinueName_of_isNamePart (h : Text.isNamePart c = true) : mayContinueName c = true := by
  rw [mayContinueName, h, Bool.or_true]

theorem mayBeginName_of_isNameStart (h : Text.isNameStart c = true) : mayBeginName c = true := by
  rw [mayBeginName, h, Bool.or_true]

/-- Only a name is read as one, and it is all of the name that the line begins with. -/
theorem name_of_item (h : item st c cs = (.token t st', rest)) (hname : t.kind = .name) :
    t.text.toList = nameAt (c :: cs) ∧ c :: cs = nameAt (c :: cs) ++ rest ∧ st' = st := by
  unfold item at h
  dsimp only at h
  split at h
  · cases h
  split at h
  · split at h <;> cases h
  split at h
  · split at h <;> cases h
  split at h
  · split at h
    · obtain ⟨h, -⟩ := Prod.mk.inj h
      rw [← (Item.token.inj h).1] at hname
      cases hname
    · cases h
  split at h
  · split at h
    · obtain ⟨h, hrest⟩ := Prod.mk.inj h
      obtain ⟨rfl, rfl⟩ := Item.token.inj h
      refine ⟨by simp, ?_, rfl⟩
      rw [← hrest]
      exact (append_drop_takeWhile ..).symm
    · cases h
  split at h
  · split at h
    · obtain ⟨h, -⟩ := Prod.mk.inj h
      rw [← (Item.token.inj h).1] at hname
      cases hname
    · cases h
  · split at h
    · split at h
      · cases h
      · obtain ⟨h, -⟩ := Prod.mk.inj h
        rw [← (Item.token.inj h).1] at hname
        cases hname
    · cases h

theorem Advances.name (h : Advances st c s t st' ms rest) (hname : t.kind = .name) :
    c :: s = t.text.toList ++ rest ∧ (∀ d ∈ rest.head?, mayContinueName d = false) ∧ st' = st := by
  obtain ⟨htext, hsplit, hst⟩ := name_of_item h.item_eq hname
  refine ⟨?_, fun d hd => ?_, hst⟩
  · rw [← htext, ← List.append_assoc, ← List.cons_append] at hsplit
    exact List.append_cancel_right hsplit
  · obtain ⟨rest', rfl⟩ := List.head?_eq_some_iff.1 hd
    have hdrop : (c :: (s ++ ['\n'])).dropWhile mayContinueName = d :: rest' ++ ['\n'] := by
      have hcancel : nameAt (c :: (s ++ ['\n'])) ++ (c :: (s ++ ['\n'])).dropWhile mayContinueName =
          nameAt (c :: (s ++ ['\n'])) ++ (d :: rest' ++ ['\n']) := by
        rw [← hsplit]
        exact List.takeWhile_append_dropWhile
      exact List.append_cancel_left hcancel
    have hhead := List.head?_dropWhile_not mayContinueName (c :: (s ++ ['\n']))
    rw [hdrop] at hhead
    exact hhead

/-- A name that the line begins with is read as a token, when no character behind it is part of a name. A
character that only looks like one ends in an error. -/
theorem exists_run_of_name {w : List Char} (hw : Text.isName w = true)
    (hstart : ∀ s, textPrefix? (w ++ s) = none) (hnext : ∀ c ∈ s.head?, Text.isNamePart c = false)
    (hrun : run fuel false st (w ++ s) = (ts, none)) :
    ∃ us k, ts = { kind := .name, text := String.ofList w, line := st.line
                   level := st.brackets.length } :: us ∧
      run k false st s = (us, none) ∧ ∀ c ∈ s.head?, mayContinueName c = false := by
  cases w with
  | nil => cases hw
  | cons c w =>
    rw [Text.isName, Bool.and_eq_true, List.all_eq_true] at hw
    have hbegin := mayBeginName_of_isNameStart hw.1
    have hspace : isSpace c = false := by
      have := not_mem_marked (p := mayBeginName) (by decide) hbegin
      simp only [marked, List.mem_cons, not_or] at this
      simp [isSpace, this]
    have hname : nameAt (c :: w ++ s) = c :: w ++ nameAt s :=
      nameAt_append (List.forall_mem_cons.2 ⟨mayContinueName_of_mayBeginName hbegin,
        fun d hd => mayContinueName_of_isNamePart (hw.2 d hd)⟩) s
    cases fuel with
    | zero => simp [run_zero] at hrun
    | succ fuel =>
      by_cases hends : ∀ d ∈ s.head?, mayContinueName d = false
      · rw [nameAt_of_head? hends, List.append_nil] at hname
        have hitem := @item_eq_name c st (w ++ s) (hstart s) hbegin (by
          rw [← List.cons_append, hname, Text.isName, hw.1, Bool.true_and, List.all_eq_true]
          exact hw.2)
        rw [← List.cons_append, hname, List.drop_left] at hitem
        rw [List.cons_append, run_token hspace hitem] at hrun
        obtain ⟨rfl, hnone⟩ := Prod.mk.inj hrun
        exact ⟨_, fuel, rfl, Prod.ext rfl hnone, hends⟩
      · simp only [not_forall, Bool.not_eq_false] at hends
        obtain ⟨d, hd, hcontinues⟩ := hends
        obtain ⟨s, rfl⟩ := List.head?_eq_some_iff.1 hd
        have hwhole : Text.isName (nameAt (c :: (w ++ d :: s))) = false := by
          rw [← List.cons_append, hname, nameAt, List.takeWhile_cons_of_pos hcontinues]
          simp [Text.isName, hnext d rfl]
        have hitem := @item_eq_error c st (w ++ d :: s) (hstart _) hbegin hwhole
        rw [List.cons_append, run_error hspace hitem] at hrun
        cases hrun

end Lexer

end Script

end Stencil
