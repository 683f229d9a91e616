import Mathlib.Data.List.Basic
import Mathlib.Data.List.Induction
import Mathlib.Data.List.TakeWhile
import Stencil.Listing.Opening
import Stencil.Proofs.Lines

/-!
# What tokens are read from

Whether a line opens a block is decided by a reader of its own, which knows the brackets, the texts and the
colons of the line and no other tokens. The pieces of a line that the lexer reads as numbers, names and
operators are plain for that reader, apart from brackets and colons, and a text ends for both at the same
place.
-/

namespace Stencil

namespace Opening

variable {c : Char} {s rest : List Char} {ms : List Mark}

/-- The characters that are no part of a name, of a number or of an operator without a meaning of its own. -/
def marked : List Char :=
  ['#', ':', '\\', '\n', ' ', '\t', '\x0c', '\'', '"', '(', '[', '\x7b', ')', ']', '\x7d']

/-- A piece of a line without such characters. -/
def Plain (s : List Char) : Prop := ∀ c ∈ s, c ∉ marked

instance : Decidable (Plain s) :=
  decidable_of_iff ((s.all fun c => !marked.contains c) = true) (by simp [Plain])

theorem plain_cons : Plain (c :: s) ↔ c ∉ marked ∧ Plain s := List.forall_mem_cons

theorem plain_append : Plain (s ++ rest) ↔ Plain s ∧ Plain rest := List.forall_mem_append

theorem Plain.newline_not_mem (h : Plain s) : '\n' ∉ s := fun hc => h _ hc (by decide)

/-- A class of characters with no marked one. -/
theorem not_mem_marked {p : Char → Bool} (hp : (marked.all fun d => !p d) = true) (hc : p c = true) :
    c ∉ marked := by
  intro hmem
  have := List.all_eq_true.1 hp c hmem
  simp [hc] at this

section

attribute [local simp] marks

theorem marks_cons_of_not_mem (hc : c ∉ marked) (rest : List Char) :
    marks (c :: rest) = (marks rest).map (Mark.other :: ·) := by
  simp only [marked, List.mem_cons, List.not_mem_nil, not_or, or_false] at hc
  rw [marks]
  all_goals simp_all

theorem marks_plain (hs : Plain s) (rest : List Char) :
    marks (s ++ rest) = (marks rest).map (List.replicate s.length .other ++ ·) := by
  induction s with
  | nil => simp
  | cons c s ih =>
    rw [plain_cons] at hs
    rw [List.cons_append, marks_cons_of_not_mem hs.1, ih hs.2, Option.map_map]
    rfl

theorem marks_space (hc : Script.Lexer.isSpace c = true) (rest : List Char) :
    marks (c :: rest) = marks rest := by
  simp only [Script.Lexer.isSpace, Bool.or_eq_true, beq_iff_eq] at hc
  rcases hc with (rfl | rfl) | rfl <;> simp

theorem marks_dropWhile_isSpace (s : List Char) :
    marks (s.dropWhile Script.Lexer.isSpace) = marks s := by
  induction s with
  | nil => rfl
  | cons c s ih =>
    by_cases hc : Script.Lexer.isSpace c = true
    · rw [List.dropWhile_cons_of_pos hc, ih, marks_space hc]
    · rw [List.dropWhile_cons_of_neg hc]

theorem marks_comment (h : '\r' ∉ s) : marks ('#' :: s) = some [] := by
  have hdrop : s.dropWhile (· != '\r') = [] := by
    refine List.dropWhile_eq_nil_iff.2 fun d hd => ?_
    have hr : d ≠ '\r' := fun hr => h (hr ▸ hd)
    simpa using hr
  simp [hdrop]

theorem marks_assign (s : List Char) : marks (':' :: '=' :: s) = (marks s).map (.other :: ·) := by
  simp

theorem marks_colon (h : s.head? ≠ some '=') : marks (':' :: s) = (marks s).map (.colon :: ·) := by
  rw [marks]
  intro cs hcs
  exact h (by rw [hcs]; rfl)

theorem marks_open (h : c = '(' ∨ c = '[' ∨ c = '\x7b') (s : List Char) :
    marks (c :: s) = (marks s).map (.openBracket :: ·) := by
  rcases h with rfl | rfl | rfl <;> simp

theorem marks_close (h : c = ')' ∨ c = ']' ∨ c = '\x7d') (s : List Char) :
    marks (c :: s) = (marks s).map (.closeBracket :: ·) := by
  rcases h with rfl | rfl | rfl <;> simp

theorem marks_short {quote : Char} (hq : quote = '\'' ∨ quote = '"') (hs : s.take 2 ≠ [quote, quote])
    (h : skipShort quote s = some rest) : marks (quote :: s) = (marks rest).map (.other :: ·) := by
  rcases hq with rfl | rfl <;> simp [hs] <;> split <;> simp_all

theorem marks_long {quote : Char} (hq : quote = '\'' ∨ quote = '"') (hs : s.take 2 = [quote, quote])
    (h : skipLong quote (s.drop 2) = some rest) :
    marks (quote :: s) = (marks rest).map (.other :: ·) := by
  rcases hq with rfl | rfl <;> simp [hs] <;> split <;> simp_all

end

theorem suffix_of_skipShort {quote : Char} (h : skipShort quote s = some rest) : rest <:+ s := by
  fun_induction skipShort quote s with
  | case1 c cs ih => exact (ih h).trans ((List.suffix_cons ..).trans (List.suffix_cons ..))
  | case2 c cs => exact Option.some.inj h ▸ List.suffix_cons ..
  | case3 => cases h
  | case4 c cs _ _ _ ih => exact (ih h).trans (List.suffix_cons ..)
  | case5 => cases h

theorem suffix_of_skipLong {quote : Char} (h : skipLong quote s = some rest) : rest <:+ s := by
  fun_induction skipLong quote s with
  | case1 c cs ih => exact (ih h).trans ((List.suffix_cons ..).trans (List.suffix_cons ..))
  | case2 c d e cs => exact Option.some.inj h ▸ ⟨[c, d, e], rfl⟩
  | case3 => cases h
  | case4 c d e cs _ _ _ ih => exact (ih h).trans (List.suffix_cons ..)
  | case5 => cases h

theorem bracketDepth_concat (ms : List Mark) (m : Mark) :
    bracketDepth (ms ++ [m]) = bracketDepth ms + bracketDepth [m] := by
  unfold bracketDepth
  rw [List.foldl_append]
  cases m <;> simp [Int.sub_eq_add_neg]

theorem bracketDepth_append (ms ns : List Mark) :
    bracketDepth (ms ++ ns) = bracketDepth ms + bracketDepth ns := by
  induction ns using List.reverseRecOn with
  | nil => simp [bracketDepth]
  | append_singleton ns m ih =>
    rw [← List.append_assoc, bracketDepth_concat, ih, bracketDepth_concat ns, Int.add_assoc]

theorem bracketDepth_replicate (n : Nat) : bracketDepth (List.replicate n .other) = 0 := by
  induction n with
  | zero => rfl
  | succ n ih => rw [List.replicate_succ', bracketDepth_concat, ih]; rfl

end Opening

namespace Script.Lexer

open Opening

variable {c quote : Char} {s rest ds : List Char} {n : NumberLiteral} {p : Char → Bool}

/-! ## Numbers -/

/-- What is left of a text behind plain characters. -/
def Past (s rest : List Char) : Prop := ∃ piece, s = piece ++ rest ∧ Plain piece

theorem Past.refl (s : List Char) : Past s s := ⟨[], rfl, fun _ h => absurd h List.not_mem_nil⟩

theorem Past.cons (hc : c ∉ marked) (h : Past s rest) : Past (c :: s) rest := by
  obtain ⟨piece, rfl, hpiece⟩ := h
  exact ⟨c :: piece, rfl, plain_cons.2 ⟨hc, hpiece⟩⟩

theorem Past.trans {s t u : List Char} (h : Past s t) (h' : Past t u) : Past s u := by
  obtain ⟨a, rfl, ha⟩ := h
  obtain ⟨b, rfl, hb⟩ := h'
  exact ⟨a ++ b, by rw [List.append_assoc], plain_append.2 ⟨ha, hb⟩⟩

/-- A class of digits: letters and ASCII digits are plain, and an underscore is no digit. -/
structure IsDigitClass (p : Char → Bool) : Prop where
  plain : (marked.all fun d => !p d) = true
  underscore : p '_' = false

theorem past_digitRun (hp : IsDigitClass p) (h : digitRun p s = some (ds, rest)) : Past s rest := by
  induction s using digitRun.induct p generalizing ds with
  | case1 c cs hc ih =>
    simp only [digitRun, hc, if_true, Option.map_eq_some_iff, Prod.exists, Prod.mk.injEq] at h
    obtain ⟨ds', rest', h, -, rfl⟩ := h
    exact .cons (by decide) (.cons (not_mem_marked hp.plain hc) (ih h))
  | case2 c cs hc => simp [digitRun, hc] at h
  | case3 => simp [digitRun] at h
  | case4 c cs h₁ h₂ hc ih =>
    rw [digitRun] at h
    · simp only [hc, if_true, Option.map_eq_some_iff, Prod.exists, Prod.mk.injEq] at h
      obtain ⟨ds', rest', h, -, rfl⟩ := h
      exact .cons (not_mem_marked hp.plain hc) (ih h)
    all_goals assumption
  | case5 c cs h₁ h₂ hc =>
    rw [digitRun] at h
    · simp only [hc, if_false, Option.some.injEq, Prod.mk.injEq, Bool.false_eq_true] at h
      exact h.2 ▸ .refl _
    all_goals assumption
  | case6 =>
    simp only [digitRun, Option.some.injEq, Prod.mk.injEq] at h
    exact h.2 ▸ .refl _

theorem past_digitRun_cons (hp : IsDigitClass p) (hc : p c = true)
    (h : digitRun p (c :: s) = some (ds, rest)) : Past s rest := by
  have hunderscore : c ≠ '_' := by
    rintro rfl
    exact absurd hc (by simp [hp.underscore])
  rw [digitRun] at h
  · simp only [hc, if_true, Option.map_eq_some_iff, Prod.exists, Prod.mk.injEq] at h
    obtain ⟨ds', rest', h, -, rfl⟩ := h
    exact past_digitRun hp h
  all_goals simp [hunderscore]

theorem isDigitClass_decimal : IsDigitClass Number.isDigitChar := ⟨by decide, by decide⟩

theorem past_basedNumber {base : Nat} (hp : IsDigitClass p) (h : basedNumber base p s = some (n, rest)) :
    Past s rest := by
  unfold basedNumber at h
  extract_lets body at h
  have hbody : Past s body := by
    unfold body
    split
    · exact .cons (by decide) (.refl _)
    · exact .refl _
  clear_value body
  refine hbody.trans ?_
  split at h
  · split at h
    · cases h
    · split at h
      · rename_i hrun
        split at h
        · obtain ⟨-, rfl⟩ := Prod.mk.inj (Option.some.inj h)
          exact past_digitRun hp hrun
        · cases h
      · cases h
  · cases h

theorem past_exponentPart {e : List Char} (h : exponentPart s = some (e, rest)) : Past s rest := by
  unfold exponentPart at h
  split at h
  · rename_i c cs
    split at h
    · obtain ⟨-, rfl⟩ := Prod.mk.inj (Option.some.inj h)
      exact .refl _
    rename_i hc
    have hplain : c ∉ marked := by
      simp only [Bool.and_eq_true, bne_iff_ne, not_and_or, not_not] at hc
      rcases hc with rfl | rfl <;> decide
    split at h
    rename_i sign ds hsign
    have hdigits : Past cs ds := by
      split at hsign <;> obtain ⟨-, rfl⟩ := Prod.mk.inj hsign
      · exact .cons (by decide) (.refl _)
      · exact .cons (by decide) (.refl _)
      · exact .refl _
    have hnone (b : Bool) (hb : (if b = true then some ([], c :: cs) else none) = some (e, rest)) :
        Past (c :: cs) rest := by
      split at hb
      · obtain ⟨-, rfl⟩ := Prod.mk.inj (Option.some.inj hb)
        exact .refl _
      · cases hb
    split at h
    · split at h
      · obtain ⟨r, hr, hrest⟩ := Option.map_eq_some_iff.1 h
        obtain ⟨-, rfl⟩ := Prod.mk.inj hrest
        exact .cons hplain (hdigits.trans (past_digitRun isDigitClass_decimal hr))
      · exact hnone _ h
    · exact hnone _ h
  · obtain ⟨-, rfl⟩ := Prod.mk.inj (Option.some.inj h)
    exact .refl _

theorem past_finishDecimal {v : NumberLiteral} (h : finishDecimal v s = some (n, rest)) : Past s rest := by
  unfold finishDecimal at h
  split at h
  · split at h
    · rename_i c cs hc
      split at h
      · obtain ⟨-, rfl⟩ := Prod.mk.inj (Option.some.inj h)
        have hplain : c ∉ marked := by
          simp only [Bool.or_eq_true, beq_iff_eq] at hc
          rcases hc with rfl | rfl <;> decide
        exact .cons hplain (.refl _)
      · cases h
    · split at h
      · obtain ⟨-, rfl⟩ := Prod.mk.inj (Option.some.inj h)
        exact .refl _
      · cases h
  · obtain ⟨-, rfl⟩ := Prod.mk.inj (Option.some.inj h)
    exact .refl _

theorem past_fractionPart {whole : List Char} (h : fractionPart whole s = some (n, rest)) :
    Past s rest ∧ ∀ cs, s = '.' :: cs → Past cs rest := by
  have hdot {cs : List Char} (hcs : Past cs rest) :
      Past ('.' :: cs) rest ∧ ∀ ds, '.' :: cs = '.' :: ds → Past ds rest :=
    ⟨.cons (by decide) hcs, fun ds hds => (List.cons.inj hds).2 ▸ hcs⟩
  unfold fractionPart at h
  dsimp only [Option.bind_eq_bind] at h
  split at h
  on_goal 1 => split at h
  -- Whatever the fraction is, an exponent and an imaginary mark may follow it.
  all_goals
    obtain ⟨⟨fraction, after⟩, hfraction, h⟩ := Option.bind_eq_some_iff.1 h
    obtain ⟨⟨e, tail⟩, hexponent, h⟩ := Option.bind_eq_some_iff.1 h
    have htail : Past tail rest := by
      dsimp only at h
      split at h
      · split at h
        · cases h
        · split at h
          · obtain ⟨⟨v, t⟩, hfinish, h⟩ := Option.bind_eq_some_iff.1 h
            have hpast := past_finishDecimal hfinish
            split at h
            · simp_all
            · cases h
          · exact past_finishDecimal h
      · exact past_finishDecimal h
    have hafter : Past after rest := (past_exponentPart hexponent).trans htail
  · obtain ⟨r, hr, hpair⟩ := Option.map_eq_some_iff.1 hfraction
    obtain ⟨-, rfl⟩ := Prod.mk.inj hpair
    exact hdot ((past_digitRun isDigitClass_decimal hr).trans hafter)
  · obtain ⟨-, rfl⟩ := Prod.mk.inj (Option.some.inj hfraction)
    exact hdot hafter
  · obtain ⟨-, rfl⟩ := Prod.mk.inj (Option.some.inj hfraction)
    exact hdot hafter
  · obtain ⟨-, rfl⟩ := Prod.mk.inj (Option.some.inj hfraction)
    rename_i hdigit hend _ _
    refine ⟨hafter, fun cs hcs => ?_⟩
    cases cs with
    | nil => exact (hend hcs).elim
    | cons d cs => exact (hdigit d cs hcs).elim

theorem isDigitClass_hex : IsDigitClass isHexDigit := ⟨by decide, by decide⟩

theorem isDigitClass_octal : IsDigitClass fun d => '0' ≤ d && d ≤ '7' := ⟨by decide, by decide⟩

theorem isDigitClass_binary : IsDigitClass fun d => d == '0' || d == '1' := ⟨by decide, by decide⟩

theorem past_decimal (hc : Number.isDigitChar c = true)
    (h : ((digitRun Number.isDigitChar (c :: s)).bind fun r => fractionPart r.1 r.2) = some (n, rest)) :
    Past s rest := by
  obtain ⟨r, hr, hfraction⟩ := Option.bind_eq_some_iff.1 h
  exact (past_digitRun_cons isDigitClass_decimal hc hr).trans (past_fractionPart hfraction).1

theorem past_readNumber (hc : Number.isDigitChar c = true ∨ c = '.')
    (h : readNumber (c :: s) = some (n, rest)) : Past s rest := by
  unfold readNumber at h
  split at h
  · rename_i mark digits hs
    obtain ⟨rfl, rfl⟩ := List.cons.inj hs
    have hmark {x y : Char} (hm : (mark == x || mark == y) = true) (hxy : x ∉ marked ∧ y ∉ marked) :
        mark ∉ marked := by
      rw [Bool.or_eq_true, beq_iff_eq, beq_iff_eq] at hm
      exact hm.elim (fun h => h ▸ hxy.1) (fun h => h ▸ hxy.2)
    split at h
    · rename_i hm
      exact .cons (hmark hm (by decide)) (past_basedNumber isDigitClass_hex h)
    split at h
    · rename_i hm
      exact .cons (hmark hm (by decide)) (past_basedNumber isDigitClass_octal h)
    split at h
    · rename_i hm
      exact .cons (hmark hm (by decide)) (past_basedNumber isDigitClass_binary h)
    · exact past_decimal (by decide) h
  · exact (past_fractionPart h).2 s (by simp_all)
  · rename_i hdot
    have hdigit : c ≠ '.' := fun hc => hdot s (by rw [hc])
    exact past_decimal (hc.resolve_right hdigit) h

/-! ## Texts -/

/-- A text in single delimiters ends on its line, where the reader of marks takes it to end. -/
theorem skipShort_of_textBody {body : List Char} (hquote : quote ≠ '\n') (hslash : quote ≠ '\\')
    (hs : '\n' ∉ s) (h : textBody quote false (s ++ ['\n']) = some (body, rest)) :
    ∃ t, rest = t ++ ['\n'] ∧ skipShort quote s = some t := by
  induction s using skipShort.induct quote generalizing body with
  | case1 c cs ih =>
    simp only [List.mem_cons, not_or] at hs
    rw [List.cons_append, List.cons_append, textBody_slash] at h
    obtain ⟨r, hr, hbody⟩ := Option.map_eq_some_iff.1 h
    obtain ⟨-, rfl⟩ := Prod.mk.inj hbody
    exact ih hs.2.2 hr
  | case2 c cs hescape hc =>
    obtain rfl := eq_of_beq hc
    rw [List.cons_append, textBody_cons hslash] at h
    simp only [beq_self_eq_true, Bool.not_false, Bool.true_or, Bool.and_self, if_true,
      Bool.false_eq_true, if_false, Option.some.injEq, Prod.mk.injEq] at h
    refine ⟨cs, h.2.symm, ?_⟩
    rw [skipShort]
    · simp
    · exact hescape
  | case3 c cs hescape hc hescaped =>
    obtain rfl := eq_of_beq hescaped
    cases cs with
    | nil => simp [textBody_slash, textBody_nil] at h
    | cons d cs => exact (hescape d cs rfl rfl).elim
  | case4 c cs hescape hc hplain ih =>
    simp only [List.mem_cons, not_or] at hs
    rw [List.cons_append, textBody_cons (by simpa using hplain)] at h
    simp only [hc, Bool.false_and, Bool.false_eq_true, if_false, Bool.not_false, Bool.and_true,
      beq_iff_eq, Ne.symm hs.1] at h
    obtain ⟨r, hr, hbody⟩ := Option.map_eq_some_iff.1 h
    obtain ⟨-, rfl⟩ := Prod.mk.inj hbody
    obtain ⟨t, ht, hskip⟩ := ih hs.2 hr
    refine ⟨t, ht, ?_⟩
    rw [skipShort]
    · simp [hc, hplain, hskip]
    · exact hescape
  | case5 => simp [textBody_cons, Ne.symm hquote] at h

/-- A text in triple delimiters does not end before the third of them. -/
theorem textBody_long_eq_none (quote c : Char) :
    textBody quote true ['\n'] = none ∧ textBody quote true [c, '\n'] = none := by
  have hend : textBody quote true ['\n'] = none := by
    rw [textBody_cons (by decide), if_neg (by simp), if_neg (by simp), textBody_nil, Option.map_none]
  refine ⟨hend, ?_⟩
  by_cases hc : c = '\\'
  · rw [hc, textBody_slash, textBody_nil, Option.map_none]
  · rw [textBody_cons hc, if_neg (by simp), if_neg (by simp), hend, Option.map_none]

theorem skipLong_of_textBody {body : List Char} (hquote : quote ≠ '\n') (hslash : quote ≠ '\\')
    (h : textBody quote true (s ++ ['\n']) = some (body, rest)) :
    ∃ t, rest = t ++ ['\n'] ∧ skipLong quote s = some t := by
  induction s using skipLong.induct quote generalizing body with
  | case1 c cs ih =>
    rw [List.cons_append, List.cons_append, textBody_slash] at h
    obtain ⟨r, hr, hbody⟩ := Option.map_eq_some_iff.1 h
    obtain ⟨-, rfl⟩ := Prod.mk.inj hbody
    exact ih hr
  | case2 c d e cs hescape hc =>
    simp only [Bool.and_eq_true, beq_iff_eq] at hc
    obtain ⟨⟨rfl, rfl⟩, rfl⟩ := hc
    rw [List.cons_append, textBody_cons hslash] at h
    simp only [beq_self_eq_true, Bool.not_true, Bool.false_or, Bool.true_and, List.cons_append,
      List.take_succ_cons, List.take_zero, List.drop_succ_cons, List.drop_zero, if_true,
      Option.some.injEq, Prod.mk.injEq] at h
    refine ⟨cs, h.2.symm, ?_⟩
    rw [skipLong]
    · simp
    · exact hescape
  | case3 c d e cs hescape hc hescaped => exact (hescape (eq_of_beq hescaped)).elim
  | case4 c d e cs hescape hc hplain ih =>
    rw [List.cons_append, textBody_cons (by simpa using hplain)] at h
    rw [if_neg (by simpa [and_assoc] using hc), if_neg (by simp)] at h
    obtain ⟨r, hr, hbody⟩ := Option.map_eq_some_iff.1 h
    obtain ⟨-, rfl⟩ := Prod.mk.inj hbody
    obtain ⟨t, ht, hskip⟩ := ih hr
    refine ⟨t, ht, ?_⟩
    rw [skipLong]
    · simp [hc, hplain, hskip]
    · exact hescape
  | case5 s hescape hshort =>
    cases s with
    | nil => simp [(textBody_long_eq_none quote 'a').1] at h
    | cons c s =>
      cases s with
      | nil => simp [(textBody_long_eq_none quote c).2] at h
      | cons d s =>
        cases s with
        | nil =>
          rw [List.cons_append, textBody_cons fun hc => hescape d [] (by rw [hc]),
            if_neg (by simp [Ne.symm hquote]), if_neg (by simp)] at h
          simp [(textBody_long_eq_none quote d).2] at h
        | cons e s => exact (hshort c d e s rfl).elim

/-- What a text is read from and what is behind it. -/
theorem past_readText {mark : List Char} {l : TextLiteral} (hquote : quote = '\'' ∨ quote = '"')
    (hs : '\n' ∉ s) (h : readText mark (quote :: (s ++ ['\n'])) = some (l, rest)) :
    ∃ t, rest = t ++ ['\n'] ∧ t <:+ s ∧ marks (quote :: s) = (marks t).map (.other :: ·) := by
  have hnewline : quote ≠ '\n' := by rcases hquote with rfl | rfl <;> decide
  have hslash : quote ≠ '\\' := by rcases hquote with rfl | rfl <;> decide
  have hlong : (s ++ ['\n']).take 2 = [quote, quote] ↔ s.take 2 = [quote, quote] := by
    rcases s with _ | ⟨c, _ | ⟨d, s⟩⟩ <;> simp [Ne.symm hnewline]
  unfold readText at h
  dsimp only at h
  obtain ⟨r, hr, hliteral⟩ := Option.map_eq_some_iff.1 h
  obtain ⟨-, rfl⟩ := Prod.mk.inj hliteral
  by_cases hdelimiter : s.take 2 = [quote, quote]
  · have hdrop : (s ++ ['\n']).drop 2 = s.drop 2 ++ ['\n'] := by
      rcases s with _ | ⟨c, _ | ⟨d, s⟩⟩ <;> simp at hdelimiter ⊢
    simp only [hlong.2 hdelimiter, beq_self_eq_true, if_true, hdrop] at hr
    obtain ⟨t, ht, hskip⟩ := skipLong_of_textBody hnewline hslash hr
    exact ⟨t, ht, (suffix_of_skipLong hskip).trans (List.drop_suffix ..),
      marks_long hquote hdelimiter hskip⟩
  · have hdelimiter' : ((s ++ ['\n']).take 2 == [quote, quote]) = false :=
      beq_eq_false_iff_ne.2 (mt hlong.1 hdelimiter)
    simp only [hdelimiter', Bool.false_eq_true, if_false] at hr
    obtain ⟨t, ht, hskip⟩ := skipShort_of_textBody hnewline hslash hs hr
    exact ⟨t, ht, suffix_of_skipShort hskip, marks_short hquote hdelimiter hskip⟩

/-! ## Names and operators -/

theorem mayContinueName_not_mem (hc : mayContinueName c = true) : c ∉ marked :=
  not_mem_marked (by decide) hc

theorem append_drop_takeWhile (p : Char → Bool) (s : List Char) :
    s.takeWhile p ++ s.drop (s.takeWhile p).length = s :=
  List.prefix_iff_eq_append.1 (List.takeWhile_prefix p)

theorem textPrefix?_eq_some {mark : List Char} (h : textPrefix? s = some mark) :
    ∃ quote t, s = mark ++ quote :: t ∧ (quote = '\'' ∨ quote = '"') ∧ Plain mark := by
  unfold textPrefix? at h
  extract_lets m plain at h
  have hsplit : m ++ s.drop m.length = s := append_drop_takeWhile ..
  have hmark : Plain m := fun d hd => not_mem_marked (by decide) (List.mem_takeWhile_imp hd)
  split at h
  · rename_i quote t hdrop
    split at h
    · rename_i hquote
      obtain rfl := Option.some.inj h
      simp only [Bool.and_eq_true, Bool.or_eq_true, beq_iff_eq] at hquote
      exact ⟨quote, t, by rw [← hdrop, hsplit], hquote.1, hmark⟩
    · cases h
  · cases h

theorem operatorAt_cases (c : Char) (s : List Char) :
    (operatorAt (c :: s) = [c] ∧ ¬ (c = ':' ∧ s.head? = some '=')) ∨
      (c = ':' ∧ operatorAt (c :: s) = [':', '='] ∧ s.head? = some '=') ∨
      (Plain (operatorAt (c :: s)) ∧ 2 ≤ (operatorAt (c :: s)).length) := by
  have hthree : (operators3.all fun o => decide (Plain o.toList ∧ 2 ≤ o.toList.length)) = true := by decide
  have htwo : (operators2.all fun o =>
      decide (o.toList = [':', '='] ∨ Plain o.toList ∧ 2 ≤ o.toList.length)) = true := by decide
  unfold operatorAt
  dsimp only
  split
  · rename_i h
    have := of_decide_eq_true (List.all_eq_true.1 hthree _ (List.contains_iff_mem.1 h))
    rw [String.toList_ofList] at this
    exact .inr (.inr this)
  split
  · rename_i h
    have := of_decide_eq_true (List.all_eq_true.1 htwo _ (List.contains_iff_mem.1 h))
    rw [String.toList_ofList] at this
    refine .inr (this.imp_left fun hassign => ?_)
    cases s with
    | nil => simp at hassign
    | cons d s =>
      obtain ⟨rfl, hd⟩ := List.cons.inj hassign
      obtain ⟨rfl, -⟩ := List.cons.inj hd
      exact ⟨rfl, rfl, rfl⟩
  · rename_i h
    refine .inl ⟨rfl, ?_⟩
    rintro ⟨rfl, hassign⟩
    obtain ⟨t, rfl⟩ := List.head?_eq_some_iff.1 hassign
    exact h (by rfl)

/-- A character that begins no longer operator is one by itself. -/
theorem operatorAt_cons (h : ((operators3 ++ operators2).all fun o => o.toList.head? != some c) = true)
    (s : List Char) : operatorAt (c :: s) = [c] := by
  rw [List.all_append, Bool.and_eq_true, List.all_eq_true, List.all_eq_true] at h
  have hlonger {l : List String} (hl : ∀ o ∈ l, (o.toList.head? != some c) = true) (k : Nat) :
      l.contains (String.ofList ((c :: s).take (k + 1))) = false := by
    rw [← Bool.not_eq_true, List.contains_iff_mem]
    intro hmem
    simpa using hl _ hmem
  unfold operatorAt
  dsimp only
  rw [hlonger h.1 2, hlonger h.2 1]
  rfl

theorem operatorAt_append_drop (s : List Char) : operatorAt s ++ s.drop (operatorAt s).length = s := by
  refine List.prefix_iff_eq_append.1 ?_
  unfold operatorAt
  dsimp only
  split
  · exact List.take_prefix ..
  split
  · exact List.take_prefix ..
  · exact List.take_prefix ..

/-- The line break behind a line is not part of a piece at its head. -/
theorem exists_append_newline {piece : List Char} (h : s ++ ['\n'] = piece ++ rest)
    (hpiece : '\n' ∉ piece) : ∃ t, rest = t ++ ['\n'] ∧ s = piece ++ t := by
  rcases List.eq_nil_or_concat rest with rfl | ⟨t, d, rfl⟩
  · rw [List.append_nil] at h
    exact (hpiece (h ▸ List.mem_append_right _ List.mem_cons_self)).elim
  · rw [List.concat_eq_append, ← List.append_assoc] at h
    obtain ⟨rfl, hd⟩ := List.append_inj' h rfl
    exact ⟨t, by rw [List.concat_eq_append, hd], rfl⟩

end Script.Lexer

end Stencil
