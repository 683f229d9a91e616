import Stencil.Proofs.CodeLines
import Stencil.Proofs.Emission
import Stencil.Proofs.LineTokens

/-!
# The role of a statement

A statement closes a block, continues one or opens one by the tokens of its lines: of the first, whether it
closes or continues, and of the last that is not blank, whether it opens. Each of the two lines is read by
itself; for a statement on one line these are the tokens of the statement, whatever blanks stand around it.
-/

namespace Stencil

namespace Text

variable {c : Char} {s line : List Char}

/-! ## Blanks -/

/-- Whether an odd number of boundaries are at or below `n`. -/
def Boundaries.isOdd (n : Nat) : List Nat → Bool
  | [] => false
  | b :: bs => bif Nat.ble b n then !isOdd n bs else isOdd n bs

theorem Boundaries.contains_eq (bs : Array Nat) (n : Nat) : contains bs n = isOdd n bs.toList := by
  have hfold (bs : List Nat) (inside : Bool) :
      bs.foldl (fun inside b => if b ≤ n then !inside else inside) inside = (inside ^^ isOdd n bs) := by
    induction bs generalizing inside with
    | nil => simp [isOdd]
    | cons b bs ih =>
      rw [List.foldl_cons, ih, isOdd]
      by_cases hb : b ≤ n
      · simp [hb, Nat.ble_eq_true_of_le hb]
      · have hble : Nat.ble b n = false := Bool.eq_false_iff.2 (mt Nat.le_of_ble_eq_true hb)
        simp [hb, hble]
  rw [contains, ← Array.foldl_toList, hfold, Bool.false_xor]

/-- The blanks beyond ASCII. -/
def wideBlanks : List Nat :=
  [0x85, 0xA0, 0x1680, 0x2000, 0x2001, 0x2002, 0x2003, 0x2004, 0x2005, 0x2006, 0x2007, 0x2008, 0x2009,
    0x200A, 0x2028, 0x2029, 0x202F, 0x205F, 0x3000]

set_option maxRecDepth 10000 in
theorem isOdd_wideBlanks : (wideBlanks.all fun n => !Boundaries.isOdd n nameStartBoundaries.toList &&
    !Boundaries.isOdd n namePartBoundaries.toList) = true := by
  decide +kernel

theorem mem_wideBlanks (hc : isBlank c = true) (hwide : 128 ≤ c.toNat) : c.toNat ∈ wideBlanks := by
  simp only [isBlank, Bool.or_eq_true, Bool.and_eq_true, decide_eq_true_eq, beq_iff_eq] at hc
  simp only [wideBlanks, List.mem_cons, List.not_mem_nil, or_false]
  omega

/-- A blank is part of no name. -/
theorem isNamePart_of_isBlank (hc : isBlank c = true) : isNameStart c = false ∧ isNamePart c = false := by
  by_cases hwide : 128 ≤ c.toNat
  · have hodd := List.all_eq_true.1 isOdd_wideBlanks _ (mem_wideBlanks hc hwide)
    simp only [Bool.and_eq_true, Bool.not_eq_true'] at hodd
    simp only [isNameStart, isNamePart, Nat.not_lt.2 hwide, if_false, Boundaries.contains_eq]
    exact hodd
  · have hnarrow : c.toNat < 128 := Nat.lt_of_not_le hwide
    simp only [isBlank, Bool.or_eq_true, Bool.and_eq_true, decide_eq_true_eq, beq_iff_eq] at hc
    simp only [isNameStart, isNamePart, hnarrow, if_true, Bool.or_eq_false_iff, Bool.and_eq_false_iff,
      decide_eq_false_iff_not, beq_eq_false_iff_ne]
    omega

theorem isBlank_of_isSpace (hc : Script.Lexer.isSpace c = true) : isBlank c = true := by
  simp only [Script.Lexer.isSpace, Bool.or_eq_true, beq_iff_eq] at hc
  rcases hc with (rfl | rfl) | rfl <;> rfl

/-- What cannot continue a name is no word character. -/
theorem isWord_eq_false (hc : Script.Lexer.mayContinueName c = false) : isWord c = false := by
  simp only [Script.Lexer.mayContinueName, Bool.or_eq_false_iff, ge_iff_le, decide_eq_false_iff_not,
    Nat.not_le] at hc
  obtain ⟨hnarrow, hpart⟩ := hc
  simp only [isNamePart, hnarrow, if_true, Bool.or_eq_false_iff] at hpart
  simp only [isWord, isAlphanumeric, hnarrow, if_true, Bool.or_eq_false_iff]
  refine ⟨hpart.1, ?_⟩
  rw [beq_eq_false_iff_ne]
  rintro rfl
  exact absurd hpart.2 (by decide)

end Text

namespace Script

open Lexer Opening

variable {c : Char} {s rest line : List Char} {ts : List Token} {st : State} {fuel : Nat}

/-- The only token is the name `end`. -/
def IsEnding (ts : List Token) : Prop := ∃ t, significant ts = [t] ∧ t.kind = .name ∧ t.text = "end"

/-- The first token is a name that continues a block. -/
def IsContinuing (ts : List Token) : Prop :=
  ∃ t, (significant ts).head? = some t ∧ t.kind = .name ∧ t.text.toList ∈ Listing.continuationWords

/-- The tokens of a line that is a script by itself. -/
def ReadsAs (line : List Char) (ts : List Token) : Prop :=
  Text.Unbroken line ∧ lex (line ++ ['\n']) = (ts, none)

/-! ## The beginning of a line -/

theorem lex_eq_run (hs : '\r' ∉ s) : lex s = run (2 * s.length + 3 + 1) true {} s := by
  rw [lex, normalize_of_not_mem hs]

theorem margin_of_not_blank {m : Margin} (hc : Text.isBlank c = false) (hslash : c ≠ '\\') :
    margin m (c :: s) = .ok (m, c :: s) := by
  unfold margin
  split <;> simp_all <;> exact absurd hc (by decide)

/-- A backslash at the head of a line is refused, when it does not stand before another line. -/
theorem margin_slash {m : Margin} (hs : '\n' ∉ s) :
    ∃ e, margin m ('\\' :: (s ++ ['\n'])) = .error e := by
  cases s with
  | nil => exact ⟨_, rfl⟩
  | cons d s =>
    refine ⟨⟨m.line, false, none⟩, ?_⟩
    rw [List.mem_cons, not_or] at hs
    rw [List.cons_append, margin]
    all_goals simp [Ne.symm hs.1]

/-- A line that begins with neither a blank nor a comment is read from its first character on. -/
theorem exists_run_of_readsAs (h : ReadsAs line ts) (htrim : Text.trim Text.isBlank line = line)
    (hne : line ≠ []) (hcomment : line.head? ≠ some '#') :
    ∃ fuel, run fuel false {} (line ++ ['\n']) = (ts, none) := by
  obtain ⟨hs, hlex⟩ := h
  rw [lex_eq_run (by simpa using hs.2)] at hlex
  generalize 2 * (line ++ ['\n']).length + 3 = fuel at hlex
  refine ⟨fuel, ?_⟩
  unfold run at hlex
  rw [if_pos rfl] at hlex
  cases line with
  | nil => exact (hne rfl).elim
  | cons c s =>
    rw [List.cons_append] at hlex ⊢
    by_cases hslash : c = '\\'
    · subst hslash
      obtain ⟨e, he⟩ := @margin_slash s { line := ({} : State).line } (Text.unbroken_cons.1 hs).2.1
      rw [he] at hlex
      cases hlex
    have hnewline : c ≠ '\n' := (Text.unbroken_cons.1 hs).1.1
    have hindentation : indentation {} 0 0 = .ok ([], {}) := rfl
    rw [margin_of_not_blank ((Text.trim_eq_self_iff.1 htrim).1 c rfl) hslash] at hlex
    dsimp only at hlex
    rw [if_neg (by split <;> simp_all)] at hlex
    simp only [ite_self, hindentation, List.nil_append] at hlex
    exact hlex

/-- A line without tokens: nothing, or a comment. -/
theorem significant_of_comment (h : ReadsAs s ts) (hcomment : ∀ c ∈ s.head?, c = '#') :
    significant ts = [] := by
  obtain ⟨hs, hlex⟩ := h
  have hreturn : '\r' ∉ s ++ ['\n'] := by simpa using hs.2
  rw [lex_eq_run hreturn] at hlex
  generalize 2 * (s ++ ['\n']).length + 3 = fuel at hlex
  unfold run at hlex
  cases s with
  | nil => exact run_start_nil rfl hlex
  | cons c s =>
    obtain rfl := hcomment c rfl
    rw [if_pos rfl] at hlex
    have hmargin : margin { line := ({} : State).line } ('#' :: s ++ ['\n']) =
      .ok ({ line := ({} : State).line }, '#' :: s ++ ['\n']) := margin_of_not_blank rfl (by decide)
    rw [hmargin] at hlex
    dsimp only at hlex
    rw [dropWhile_newline hs.1] at hlex
    exact run_start_nil rfl hlex

/-! ## Lines that begin with a word -/

theorem ne_of_isBlank {d : Char} (hc : Text.isBlank c = true) (hd : Text.isBlank d = false) : c ≠ d := by
  rintro rfl
  exact absurd hc (by simp [hd])

/-- The blanks of ASCII that are neither spaces between tokens nor line breaks. -/
def oddBlanks : List Char := ['\x0b', '\r', '\x1c', '\x1d', '\x1e', '\x1f']

theorem mem_oddBlanks (hc : Text.isBlank c = true) (hspace : isSpace c = false) (hnewline : c ≠ '\n')
    (hnarrow : c.toNat < 128) : c ∈ oddBlanks := by
  simp only [isSpace, Bool.or_eq_false_iff, beq_eq_false_iff_ne, ne_eq] at hspace
  simp only [Text.isBlank, Bool.or_eq_true, Bool.and_eq_true, decide_eq_true_eq, beq_iff_eq] at hc
  simp only [oddBlanks, List.mem_cons, List.not_mem_nil, or_false]
  simp only [ne_eq, ← Char.toNat_inj] at hspace hnewline ⊢
  simp only [Char.reduceToNat] at hspace hnewline ⊢
  omega

/-- A blank that is no space between tokens is refused. -/
theorem item_blank (hc : Text.isBlank c = true) (hspace : isSpace c = false) (hnewline : c ≠ '\n') :
    item st c s = (.error st.hardError, []) := by
  have hstart : textPrefix? (c :: s) = none := by
    have hmark : "bBrRuUfF".toList.contains c = false := by
      rw [← Bool.not_eq_true, List.contains_iff_mem]
      intro hmem
      have hletters : ("bBrRuUfF".toList.all fun d => !Text.isBlank d) = true := by decide
      simpa [hc] using List.all_eq_true.1 hletters c hmem
    unfold textPrefix?
    rw [List.takeWhile_cons_of_neg (by rw [hmark]; decide)]
    simp [ne_of_isBlank hc (d := '\'') rfl, ne_of_isBlank hc (d := '"') rfl]
  have hname := (Text.isNamePart_of_isBlank hc).1
  by_cases hbegin : mayBeginName c = true
  · refine item_eq_error hstart hbegin ?_
    rw [nameAt, List.takeWhile_cons_of_pos (mayContinueName_of_mayBeginName hbegin), Text.isName, hname,
      Bool.false_and]
  · have hnarrow : c.toNat < 128 := by
      by_contra hwide
      exact hbegin (by simp [mayBeginName, Nat.not_lt.1 hwide])
    have hmem := mem_oddBlanks hc hspace hnewline hnarrow
    have hop : operatorAt (c :: s) = [c] := by
      refine operatorAt_cons ?_ s
      have hall : (oddBlanks.all fun d => (operators3 ++ operators2).all fun o => o.toList.head? != some d) =
          true := by decide
      exact List.all_eq_true.1 hall c hmem
    simp only [oddBlanks, List.mem_cons, List.not_mem_nil, or_false] at hmem
    rcases hmem with rfl | rfl | rfl | rfl | rfl | rfl <;> simp only [item, hstart, hop] <;> rfl

/-- The words that give a statement its role. -/
def roleWords : List (List Char) := "end".toList :: Listing.continuationWords

theorem isName_of_mem_roleWords {w : List Char} (hw : w ∈ roleWords) : Text.isName w = true := by
  have hall : roleWords.all Text.isName = true := by decide
  exact List.all_eq_true.1 hall w hw

theorem textPrefix?_roleWord {w : List Char} (hw : w ∈ roleWords) (s : List Char) :
    textPrefix? (w ++ s) = none := by
  simp only [roleWords, Listing.continuationWords, List.mem_cons, List.not_mem_nil, or_false] at hw
  rcases hw with rfl | rfl | rfl | rfl | rfl <;> rfl

theorem dropWhile_isBlank_dropWhile_isSpace (s : List Char) :
    (s.dropWhile isSpace).dropWhile Text.isBlank = s.dropWhile Text.isBlank := by
  induction s with
  | nil => rfl
  | cons c s ih =>
    by_cases hc : isSpace c = true
    · rw [List.dropWhile_cons_of_pos hc, ih, List.dropWhile_cons_of_pos (Text.isBlank_of_isSpace hc)]
    · rw [List.dropWhile_cons_of_neg hc]

/-- When a line is read to its end, what blanks hide from the lexer they hide from trimming. -/
theorem remark_iff (hs : Text.Unbroken s) (hindents : st.indents = [])
    (hrun : run fuel false st (s ++ ['\n']) = (ts, none)) :
    (∀ c ∈ (s.dropWhile Text.isBlank).head?, c = '#') ↔ significant ts = [] := by
  rw [significant_eq_nil_iff hs hindents hrun, ← dropWhile_isBlank_dropWhile_isSpace]
  have hhead := List.head?_dropWhile_not isSpace s
  cases hline : s.dropWhile isSpace with
  | nil => simp
  | cons c cs =>
    rw [hline] at hhead
    have hspace : isSpace c = false := hhead
    by_cases hc : Text.isBlank c = true
    · have hmem : c ∈ s := (List.dropWhile_suffix _).subset (hline ▸ List.mem_cons_self)
      have hnewline : c ≠ '\n' := fun h => hs.1 (h ▸ hmem)
      rw [← run_dropWhile_isSpace, dropWhile_isSpace_append, hline, List.cons_append] at hrun
      cases fuel with
      | zero => simp [run_zero] at hrun
      | succ fuel =>
        rw [run_error hspace (item_blank hc hspace hnewline)] at hrun
        cases hrun
    · rw [List.dropWhile_cons_of_neg hc]

theorem isEnd_iff_exists : Listing.isEnd line = true ↔
    ∃ s, line = "end".toList ++ s ∧ ∀ c ∈ (s.dropWhile Text.isBlank).head?, c = '#' := by
  unfold Listing.isEnd
  split
  · rename_i s
    split
    · rename_i hs
      exact iff_of_true rfl ⟨s, rfl, by simp [hs]⟩
    · rename_i c cs hs
      rw [beq_iff_eq]
      constructor
      · rintro rfl
        exact ⟨s, rfl, by simp [hs]⟩
      · rintro ⟨s', hline, hs'⟩
        obtain rfl : s = s' := by simpa using hline
        exact hs' c (by simp [hs])
  · rename_i hline
    refine iff_of_false (by simp) ?_
    rintro ⟨s, rfl, -⟩
    exact hline s rfl

theorem isContinuation_iff_exists : Listing.isContinuation line = true ↔
    ∃ w ∈ Listing.continuationWords, ∃ s, line = w ++ s ∧ ∀ c ∈ s.head?, Text.isWord c = false := by
  simp only [Listing.isContinuation, List.any_eq_true, Bool.and_eq_true, List.isPrefixOf_iff_prefix,
    Bool.not_eq_true']
  refine exists_congr fun w => and_congr_right fun hw => ?_
  constructor
  · rintro ⟨⟨s, rfl⟩, hs⟩
    refine ⟨s, rfl, fun c hc => ?_⟩
    rw [List.drop_left, hc] at hs
    simpa using hs
  · rintro ⟨s, rfl, hs⟩
    refine ⟨⟨s, rfl⟩, ?_⟩
    rw [List.drop_left]
    cases hhead : s.head? with
    | none => rfl
    | some c => simpa using hs c hhead

/-- A line without blanks before it holds no token, or it begins with one. -/
theorem first_token (h : ReadsAs line ts) (htrim : Text.trim Text.isBlank line = line) :
    significant ts = [] ∨ ∃ c s k t us st ms rest, line = c :: s ∧ significant ts = t :: significant us ∧
      Advances {} c s t st ms rest ∧ run k false st (rest ++ ['\n']) = (us, none) := by
  by_cases hcomment : ∀ c ∈ line.head?, c = '#'
  · exact .inl (significant_of_comment h hcomment)
  cases line with
  | nil => exact (hcomment (by simp)).elim
  | cons c s =>
    have hblank := (Text.trim_eq_self_iff.1 htrim).1 c rfl
    have hspace : isSpace c = false :=
      Bool.eq_false_iff.2 fun h => absurd (Text.isBlank_of_isSpace h) (by simp [hblank])
    obtain ⟨fuel, hrun⟩ := exists_run_of_readsAs h htrim (by simp) (by simpa using hcomment)
    cases fuel with
    | zero => simp [run_zero] at hrun
    | succ fuel =>
      obtain ⟨-, -, hts⟩ | ⟨d, cs, t, us, st, ms, rest, hsplit, -, -, rfl, h, hrest⟩ := run_cases h.1 rfl hrun
      · exact .inl hts
      · rw [List.dropWhile_cons_of_neg (by simp [hspace])] at hsplit
        obtain ⟨rfl, rfl⟩ := List.cons.inj hsplit
        exact .inr ⟨_, _, fuel, t, us, st, ms, rest, rfl,
          List.filter_cons_of_pos h.readFrom.significant, h, hrest⟩

/-- A word with a role is the first token of a line that begins with it, when the name ends there. -/
theorem exists_run_of_roleWord {w : List Char} (hw : w ∈ roleWords) (h : ReadsAs (w ++ s) ts)
    (htrim : Text.trim Text.isBlank (w ++ s) = w ++ s) (hnext : ∀ c ∈ s.head?, Text.isNamePart c = false) :
    ∃ us k, significant ts = { kind := .name, text := String.ofList w, line := 1 } :: significant us ∧
      run k false {} (s ++ ['\n']) = (us, none) := by
  have hhead : w ++ s ≠ [] ∧ (w ++ s).head? ≠ some '#' := by
    simp only [roleWords, Listing.continuationWords, List.mem_cons, List.not_mem_nil, or_false] at hw
    rcases hw with rfl | rfl | rfl | rfl | rfl <;> exact ⟨by simp, by simp⟩
  obtain ⟨fuel, hrun⟩ := exists_run_of_readsAs h htrim hhead.1 hhead.2
  rw [List.append_assoc] at hrun
  have hbreak : ∀ c ∈ (s ++ ['\n']).head?, Text.isNamePart c = false := by
    cases s with
    | nil =>
      rintro c ⟨⟩
      decide
    | cons d s => exact hnext
  obtain ⟨us, k, rfl, hrest, -⟩ := exists_run_of_name (isName_of_mem_roleWords hw)
    (textPrefix?_roleWord hw) hbreak hrun
  exact ⟨us, k, List.filter_cons_of_pos rfl, hrest⟩

/-! ## The role of a line -/

/-- A line closes a block if its only token is the name `end`. -/
theorem isEnd_iff (h : ReadsAs line ts) (htrim : Text.trim Text.isBlank line = line) :
    Listing.isEnd line = true ↔ IsEnding ts := by
  rw [isEnd_iff_exists]
  constructor
  · rintro ⟨s, rfl, hremark⟩
    have hnext : ∀ c ∈ s.head?, Text.isNamePart c = false := by
      intro c hc
      obtain ⟨s, rfl⟩ := List.head?_eq_some_iff.1 hc
      by_cases hblank : Text.isBlank c = true
      · exact (Text.isNamePart_of_isBlank hblank).2
      · rw [List.dropWhile_cons_of_neg hblank] at hremark
        obtain rfl := hremark c rfl
        decide
    obtain ⟨us, k, hts, hrest⟩ := exists_run_of_roleWord List.mem_cons_self h htrim hnext
    have hus : significant us = [] := (remark_iff (Text.unbroken_append.1 h.1).2 rfl hrest).1 hremark
    exact ⟨_, by rw [hts, hus], rfl, rfl⟩
  · rintro ⟨t, hts, hname, htext⟩
    obtain hnil | ⟨c, s, k, t', us, st, ms, rest, rfl, hcons, hread, hrest⟩ := first_token h htrim
    · simp [hnil] at hts
    obtain ⟨rfl, hus⟩ := List.cons.inj (hcons.symm.trans hts)
    obtain ⟨hsplit, -, rfl⟩ := hread.name hname
    refine ⟨rest, by rw [hsplit, htext], ?_⟩
    exact (remark_iff (h.1.of_subset hread.readFrom.suffix.subset) rfl hrest).2 hus

/-- A line continues a block if its first token is one of the names that do. A name goes on in a few
characters that are no word characters, and a word that goes on in one of them is taken for the name. -/
theorem isContinuation_iff (h : ReadsAs line ts) (htrim : Text.trim Text.isBlank line = line)
    (hword : ∀ c ∈ line, Text.isNamePart c = true → Text.isWord c = true) :
    Listing.isContinuation line = true ↔ IsContinuing ts := by
  rw [isContinuation_iff_exists]
  constructor
  · rintro ⟨w, hw, s, rfl, hnext⟩
    have hpart : ∀ c ∈ s.head?, Text.isNamePart c = false := by
      intro c hc
      have hmem : c ∈ w ++ s := List.mem_append_right _ (List.mem_of_mem_head? hc)
      by_contra hpart
      rw [Bool.not_eq_false] at hpart
      exact absurd (hword c hmem hpart) (by simp [hnext c hc])
    obtain ⟨us, k, hts, -⟩ := exists_run_of_roleWord (List.mem_cons_of_mem _ hw) h htrim hpart
    exact ⟨_, by rw [hts, List.head?_cons], rfl, by simpa using hw⟩
  · rintro ⟨t, hts, hname, htext⟩
    obtain hnil | ⟨c, s, k, t', us, st, ms, rest, rfl, hcons, hread, -⟩ := first_token h htrim
    · simp [hnil] at hts
    obtain rfl : t' = t := by simpa [hcons] using hts
    obtain ⟨hsplit, hnext, -⟩ := hread.name hname
    exact ⟨_, htext, rest, hsplit, fun d hd => Text.isWord_eq_false (hnext d hd)⟩

/-- A line opens a block if its last token is a colon. -/
theorem opensBlock_iff (h : ReadsAs (Text.trim Text.isBlank line) ts) :
    opensBlock line = true ↔ EndsInColon ts := by
  have htrim := Text.trim_trim Text.isBlank line
  unfold opensBlock
  dsimp only
  generalize Text.trim Text.isBlank line = s at *
  have hnone (hs : ∀ c ∈ s.head?, c = '#') : ¬ EndsInColon ts := by
    rintro ⟨t, ht, -⟩
    rw [significant_of_comment h hs] at ht
    cases ht
  split
  · exact iff_of_false (by simp) (hnone (by simp))
  rename_i hcomment
  cases s with
  | nil => exact iff_of_false (by simp [marks, bracketDepth]) (hnone (by simp))
  | cons c s =>
    obtain ⟨fuel, hrun⟩ := exists_run_of_readsAs h htrim (by simp)
      (fun hc => hcomment s (by rw [Option.some.inj hc]))
    obtain ⟨ms, hms, hagrees, hdepth⟩ := exists_marks_of_run h.1 rfl hrun
    have hzero : bracketDepth ms = 0 := by simpa using hdepth
    rw [hms, hagrees.colon_iff]
    simp [hzero]

end Script

namespace Listing

open Script

variable {ls : List (List Char)} {ts : List Script.Token}

/-- The line that says whether a statement closes or continues a block. -/
def firstLine (ls : List (List Char)) : List Char := Text.trim Text.isBlank (ls.headD [])

theorem role_eq_closer_iff : role ls = .closer ↔ isEnd (firstLine ls) = true ∧ ls.length = 1 := by
  unfold role firstLine
  dsimp only
  split
  · rename_i h
    simpa using h
  · rename_i h
    refine iff_of_false ?_ (by simpa using h)
    split <;> simp

theorem role_eq_continuation_iff : role ls = .continuation ↔ isContinuation (firstLine ls) = true := by
  unfold role
  dsimp only
  split
  · rename_i h
    refine iff_of_false (by simp) fun hcontinues => ?_
    rw [Bool.and_eq_true] at h
    obtain ⟨s, hs, -⟩ := isEnd_iff_exists.1 h.1
    obtain ⟨w, hw, s', hs', -⟩ := isContinuation_iff_exists.1 hcontinues
    rw [firstLine, hs] at hs'
    simp only [continuationWords, List.mem_cons, List.not_mem_nil, or_false] at hw
    rcases hw with rfl | rfl | rfl | rfl <;> simp at hs'
  · split
    · rename_i h
      exact iff_of_true rfl h
    · rename_i h
      exact iff_of_false (by simp) h

theorem opens_iff (h : ReadsAs (Text.trim Text.isBlank (lastLine ls)) ts) :
    opens ls = true ↔ EndsInColon ts := by
  rw [opens, Bool.and_eq_true, opensBlock_iff h]
  refine and_iff_right_of_imp ?_
  rintro ⟨t, ht, -⟩
  by_contra hempty
  have hline : lastLine ls = [] := by simpa using hempty
  rw [hline] at h
  rw [significant_of_comment h (by simp [Text.trim, Text.trimEnd])] at ht
  cases ht

/-- A code that is one line, with line feeds and an indentation before it and blanks behind it. -/
structure IsOneLine (code : String) (line : List Char) : Prop where
  exists_blanks : ∃ feeds indent tail, code.toList = feeds ++ indent ++ line ++ tail ∧
    (∀ c ∈ feeds, c = '\n') ∧ (∀ c ∈ indent, Text.isIndent c = true) ∧ ∀ c ∈ tail, Text.isBlank c = true
  ne_nil : line ≠ []
  newline_not_mem : '\n' ∉ line
  trim_eq : Text.trim Text.isBlank line = line

/-- The first line of a code on one line, and the last, is that line. -/
theorem IsOneLine.lines {code : String} {line : List Char} (h : IsOneLine code line) :
    (statementLines code).length = 1 ∧ firstLine (statementLines code) = line ∧
      Text.trim Text.isBlank (lastLine (statementLines code)) = line := by
  obtain ⟨feeds, indent, tail, hcode, hfeeds, hindent, htail⟩ := h.exists_blanks
  obtain ⟨l, hl, htrim⟩ := statementLines_line hfeeds hindent htail h.ne_nil h.newline_not_mem h.trim_eq
  rw [← hcode, String.ofList_toList] at hl
  have hblank : Text.isBlankText l = false := by
    rw [← Bool.not_eq_true]
    intro hblank
    have hnil : l.dropWhile Text.isBlank = [] := List.dropWhile_eq_nil_iff.2 (List.all_eq_true.1 hblank)
    rw [Text.trim, hnil] at htrim
    exact h.ne_nil htrim.symm
  rw [hl]
  exact ⟨rfl, htrim, by simpa [lastLine, hblank] using htrim⟩

/-- The role of a statement is that of its tokens, as far as the lines that decide on it can be read by
themselves. The tokens of the first line say whether it closes or continues a block, where a statement that
closes one has no other line, and the tokens of the last line that is not blank say whether it opens one. For a
statement on one line the tokens are those of the statement, so blanks around the line do not change its
role. -/
theorem role_of_tokens (code : String) (ts : List Script.Token) :
    (ReadsAs (firstLine (statementLines code)) ts →
      (role (statementLines code) = .closer ↔ IsEnding ts ∧ (statementLines code).length = 1) ∧
      ((∀ c ∈ firstLine (statementLines code), Text.isNamePart c = true → Text.isWord c = true) →
        (role (statementLines code) = .continuation ↔ IsContinuing ts))) ∧
    (ReadsAs (Text.trim Text.isBlank (lastLine (statementLines code))) ts →
      (opens (statementLines code) = true ↔ EndsInColon ts)) ∧
    ∀ line : List Char, IsOneLine code line → ReadsAs line ts →
      (role (statementLines code) = .closer ↔ IsEnding ts) ∧
      ((∀ c ∈ line, Text.isNamePart c = true → Text.isWord c = true) →
        (role (statementLines code) = .continuation ↔ IsContinuing ts)) ∧
      (opens (statementLines code) = true ↔ EndsInColon ts) := by
  have hfirst (h : ReadsAs (firstLine (statementLines code)) ts) :
      (role (statementLines code) = .closer ↔ IsEnding ts ∧ (statementLines code).length = 1) ∧
      ((∀ c ∈ firstLine (statementLines code), Text.isNamePart c = true → Text.isWord c = true) →
        (role (statementLines code) = .continuation ↔ IsContinuing ts)) := by
    have htrim : Text.trim Text.isBlank (firstLine (statementLines code)) = firstLine (statementLines code) :=
      Text.trim_trim ..
    rw [role_eq_closer_iff, isEnd_iff h htrim, role_eq_continuation_iff]
    exact ⟨Iff.rfl, isContinuation_iff h htrim⟩
  refine ⟨hfirst, fun h => opens_iff h, fun line hcode h => ?_⟩
  obtain ⟨hlength, hline, hlast⟩ := hcode.lines
  obtain ⟨hcloser, hcontinuation⟩ := hfirst (hline.symm ▸ h)
  rw [hline] at hcontinuation
  exact ⟨by simpa [hlength] using hcloser, hcontinuation, opens_iff (hlast.symm ▸ h)⟩

theorem isOneLine_else : IsOneLine "\n  else: # note\r\n " "else: # note".toList where
  exists_blanks := ⟨['\n'], [' ', ' '], ['\r', '\n', ' '], rfl, by simp, List.all_eq_true.1 rfl,
    List.all_eq_true.1 rfl⟩
  ne_nil := by decide
  newline_not_mem := by decide
  trim_eq := by decide

/-- The tokens of `else: # note`. -/
def elseTokens : List Script.Token :=
  [{ kind := .name, text := "else", line := 1 }, { kind := .operator, text := ":", line := 1 },
    { kind := .newline, line := 1 }, { kind := .finish, line := 2 }]

theorem readsAs_else : ReadsAs "else: # note".toList elseTokens := ⟨⟨by decide, by decide⟩, rfl⟩

theorem isWord_else {c : Char} (hc : c ∈ "else: # note".toList) (hpart : Text.isNamePart c = true) :
    Text.isWord c = true := by
  have hall : ("else: # note".toList.all fun c => !Text.isNamePart c || Text.isWord c) = true := by decide
  simpa [hpart] using List.all_eq_true.1 hall c hc

theorem else_continues :
    (role (statementLines "\n  else: # note\r\n ") = .continuation ∧
      opens (statementLines "\n  else: # note\r\n ") = true) ∧
      role (statementLines "else: # note\n    x = 1") = .continuation ∧
      opens (statementLines "x = 1\nelse: # note") = true := by
  obtain ⟨-, hcontinuation, hopens⟩ := (role_of_tokens _ _).2.2 _ isOneLine_else readsAs_else
  refine ⟨⟨(hcontinuation fun _ => isWord_else).2 ⟨_, rfl, rfl, by decide⟩, hopens.2 ⟨_, rfl, rfl, rfl⟩⟩, ?_, ?_⟩
  · have hread : ReadsAs (firstLine (statementLines "else: # note\n    x = 1")) elseTokens :=
      ⟨⟨by decide, by decide⟩, rfl⟩
    exact (((role_of_tokens _ _).1 hread).2 fun _ => isWord_else).2 ⟨_, rfl, rfl, by decide⟩
  · have hread : ReadsAs (Text.trim Text.isBlank (lastLine (statementLines "x = 1\nelse: # note"))) elseTokens :=
      ⟨⟨by decide, by decide⟩, rfl⟩
    exact ((role_of_tokens _ _).2.1 hread).2 ⟨_, rfl, rfl, rfl⟩

end Listing

end Stencil
