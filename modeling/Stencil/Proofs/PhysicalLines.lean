import Stencil.Proofs.Attribution
import Stencil.Proofs.SegmentLines

/-!
# Lines that a reader of a listing counts

A reader ends a line at a carriage return as well as at a line feed, and takes both together for one end.
Directives are cut at line feeds only, so a line of a listing may be several of the reader's: a carriage
return inside of it, with something behind it, ends one of them. What is followed here is where in a
directive such a return can stand, through all that is trimmed and cut off on the way to a line, so that
the line map can be told to agree with the reader from the directives alone.
-/

namespace Stencil

namespace Text

variable {c sep : Char} {s t u v x line : List Char} {ls : List (List Char)} {p : Char → Bool}

/-! ## Pieces inside of texts -/

theorem cons_infix_append_iff (h : c ∉ u) : c :: x <:+: u ++ v ↔ c :: x <:+: v := by
  constructor
  · rintro ⟨before, after, heq⟩
    induction u generalizing before with
    | nil => exact ⟨before, after, heq⟩
    | cons d u ih =>
      rw [List.mem_cons, not_or] at h
      cases before with
      | nil => exact absurd (List.cons.inj heq).1 h.1
      | cons e before => exact ih h.2 before (List.cons.inj heq).2
  · exact fun h => h.trans (List.suffix_append u v).isInfix

theorem cons_infix_dropWhile_iff (h : p c = false) : c :: x <:+: s.dropWhile p ↔ c :: x <:+: s := by
  have hc : c ∉ s.takeWhile p := fun hc => by
    rw [List.mem_takeWhile_imp hc] at h
    cases h
  rw [← cons_infix_append_iff hc, List.takeWhile_append_dropWhile]

theorem concat_infix_trimEnd_iff (h : p c = false) : x ++ [c] <:+: trimEnd p s ↔ x ++ [c] <:+: s := by
  have hreverse := cons_infix_dropWhile_iff (s := s.reverse) (x := x.reverse) h
  rw [← List.reverse_concat, List.reverse_infix] at hreverse
  rw [trimEnd, ← hreverse, ← List.reverse_infix, List.reverse_reverse]

theorem infix_of_mem_cutAt (h : line ∈ cutAt sep s) : line <:+: s := by
  induction s generalizing line with
  | nil => exact List.mem_singleton.1 h ▸ List.infix_rfl
  | cons c s ih =>
    by_cases hsep : c = sep
    · rw [hsep, cutAt_self] at h
      rcases List.mem_cons.1 h with rfl | h
      · exact List.nil_infix
      · exact List.infix_cons (ih h)
    · obtain ⟨l, ls, hs, hc⟩ := exists_cutAt_cons hsep s
      rw [hc] at h
      rw [hs] at ih
      rcases List.mem_cons.1 h with rfl | h
      · -- The first piece begins the text, so one more character at its head does so too.
        have hstart : l <+: s := by
          have hjoin := joinWith_cutAt sep s
          rw [hs] at hjoin
          cases ls with
          | nil => exact hjoin ▸ List.prefix_rfl
          | cons m ls =>
            rw [joinWith_cons_cons] at hjoin
            exact ⟨_, hjoin⟩
        exact (List.prefix_cons_inj c |>.2 hstart).isInfix
      · exact List.infix_cons (ih (List.mem_cons_of_mem l h))

/-- A piece of a text that holds no separator lies inside of one of the pieces that the text is cut into. -/
theorem exists_infix_cutAt_iff (hx : sep ∉ x) : (∃ line ∈ cutAt sep s, x <:+: line) ↔ x <:+: s := by
  constructor
  · rintro ⟨line, hline, h⟩
    exact h.trans (infix_of_mem_cutAt hline)
  · rintro ⟨before, after, rfl⟩
    induction before with
    | nil =>
      obtain ⟨l, ls, -, hcut⟩ := cutAt_append_of_not_mem hx after
      rw [List.nil_append, hcut]
      exact ⟨x ++ l, List.mem_cons_self, (List.prefix_append x l).isInfix⟩
    | cons c before ih =>
      obtain ⟨line, hline, h⟩ := ih
      simp only [List.cons_append]
      by_cases hsep : c = sep
      · rw [hsep, cutAt_self]
        exact ⟨line, List.mem_cons_of_mem _ hline, h⟩
      · obtain ⟨l, ls, hs, hc⟩ := exists_cutAt_cons hsep (before ++ x ++ after)
        rw [hs] at hline
        rw [hc]
        rcases List.mem_cons.1 hline with rfl | hline
        · exact ⟨c :: line, List.mem_cons_self, List.infix_cons h⟩
        · exact ⟨line, List.mem_cons_of_mem _ hline, h⟩

theorem exists_infix_joinWith_iff (hne : ls ≠ []) (hls : ∀ line ∈ ls, sep ∉ line) (hx : sep ∉ x) :
    (∃ line ∈ ls, x <:+: line) ↔ x <:+: joinWith [sep] ls := by
  rw [← exists_infix_cutAt_iff hx, cutAt_joinWith hne hls]

theorem prefix_commonStart (s t : List Char) : commonStart s t <+: s ∧ commonStart s t <+: t := by
  induction s generalizing t with
  | nil => exact ⟨List.nil_prefix, List.nil_prefix⟩
  | cons c s ih =>
    cases t with
    | nil => exact ⟨List.nil_prefix, List.nil_prefix⟩
    | cons d t =>
      rw [commonStart]
      split
      · rename_i h
        rw [beq_iff_eq] at h
        subst h
        exact ⟨(List.prefix_cons_inj c).2 (ih t).1, (List.prefix_cons_inj c).2 (ih t).2⟩
      · exact ⟨List.nil_prefix, List.nil_prefix⟩

theorem prefix_foldl_commonStart (s : List Char) (h : t = s ∨ t ∈ ls) : ls.foldl commonStart s <+: t := by
  induction ls generalizing s t with
  | nil =>
    rcases h with rfl | h
    · exact List.prefix_rfl
    · cases h
  | cons l ls ih =>
    rw [List.foldl_cons]
    rcases h with rfl | h
    · exact (ih _ (.inl rfl)).trans (prefix_commonStart _ _).1
    · rcases List.mem_cons.1 h with rfl | h
      · exact (ih _ (.inl rfl)).trans (prefix_commonStart _ _).2
      · exact ih _ (.inr h)

/-- The margin of some lines begins each of them that holds something. -/
theorem prefix_margin (h : line ∈ ls) (hs : line.all isIndent = false) :
    margin ls <+: line.takeWhile isIndent := by
  have hmem : line.takeWhile isIndent ∈ (ls.filter fun l => !l.all isIndent).map (·.takeWhile isIndent) :=
    List.mem_map_of_mem (List.mem_filter.2 ⟨h, by rw [hs]; rfl⟩)
  unfold margin
  split
  · rename_i hnil
    rw [hnil] at hmem
    cases hmem
  · rename_i indent indents hcons
    rw [hcons] at hmem
    exact prefix_foldl_commonStart indent (List.mem_cons.1 hmem)

/-- Only spaces and tabs are cut off with the margin. -/
theorem exists_infix_dedent_iff (hc : isIndent c = false) :
    (∃ line ∈ dedent ls, c :: x <:+: line) ↔ ∃ line ∈ ls, c :: x <:+: line := by
  have hline (line : List Char) (h : line ∈ ls) :
      (c :: x <:+: if line.all isIndent then [] else line.drop (margin ls).length) ↔ c :: x <:+: line := by
    split
    · rename_i hall
      rw [List.all_eq_true] at hall
      refine iff_of_false (by simp) fun hx => ?_
      rw [hall c (hx.subset List.mem_cons_self)] at hc
      cases hc
    · rename_i hall
      have hstart := prefix_margin h (Bool.eq_false_iff.2 hall)
      have hmargin : c ∉ margin ls := fun hmem => by
        rw [List.mem_takeWhile_imp (hstart.subset hmem)] at hc
        cases hc
      have htake : line.take (margin ls).length = margin ls :=
        (List.prefix_iff_eq_take.1 (hstart.trans (List.takeWhile_prefix _))).symm
      conv_rhs => rw [← List.take_append_drop (margin ls).length line, htake]
      exact (cons_infix_append_iff hmargin).symm
  constructor
  · rintro ⟨_, hmem, hx⟩
    obtain ⟨line, h, rfl⟩ := List.mem_map.1 hmem
    exact ⟨line, h, (hline line h).1 hx⟩
  · rintro ⟨line, h, hx⟩
    exact ⟨_, List.mem_map_of_mem h, (hline line h).2 hx⟩

/-! ## Lines with returns inside -/

/-- A line has a carriage return with something behind it. -/
def ReturnsInside (line : List Char) : Prop := ∃ c, ['\r', c] <:+: line

/-- A line without the carriage return that belongs to its end. -/
def withoutReturn (line : List Char) : List Char :=
  if line.getLast? = some '\r' then line.dropLast else line

theorem ReturnsInside.of_infix (h : ReturnsInside s) (hs : s <:+: t) : ReturnsInside t := by
  obtain ⟨c, hc⟩ := h
  exact ⟨c, hc.trans hs⟩

theorem returnsInside_of_append (h : t ≠ []) : ReturnsInside (s ++ '\r' :: t) := by
  obtain ⟨c, t, rfl⟩ := List.exists_cons_of_ne_nil h
  exact ⟨c, s, t, by simp⟩

theorem returnsInside_append_iff (h : '\r' ∉ s) : ReturnsInside (s ++ t) ↔ ReturnsInside t :=
  exists_congr fun _ => cons_infix_append_iff h

theorem withoutReturn_subset (line : List Char) : withoutReturn line ⊆ line := by
  unfold withoutReturn
  split
  · exact List.dropLast_subset line
  · exact List.Subset.refl line

theorem mem_withoutReturn_iff : '\r' ∈ withoutReturn line ↔ ReturnsInside line := by
  unfold withoutReturn
  split
  · rename_i hlast
    obtain ⟨s, rfl⟩ := List.getLast?_eq_some_iff.1 hlast
    rw [List.dropLast_concat]
    constructor
    · intro h
      obtain ⟨a, b, rfl⟩ := List.append_of_mem h
      rw [List.append_assoc]
      exact returnsInside_of_append (by simp)
    · rintro ⟨c, a, b, heq⟩
      have hdrop := congrArg List.dropLast heq
      rw [List.dropLast_concat, List.append_assoc, List.dropLast_append_of_ne_nil (by simp)] at hdrop
      rw [← hdrop]
      simp
  · rename_i hlast
    constructor
    · intro h
      obtain ⟨a, b, rfl⟩ := List.append_of_mem h
      refine returnsInside_of_append fun hnil => hlast ?_
      rw [hnil, List.getLast?_append]
      rfl
    · rintro ⟨c, h⟩
      exact h.subset List.mem_cons_self

/-- After the blanks at its end are cut off, a line still has the returns with something else behind. -/
theorem returnsInside_trimEnd_iff : ReturnsInside (trimEnd isBlank line) ↔
    ∃ b c, isBlank c = false ∧ '\r' :: (b ++ [c]) <:+: line := by
  constructor
  · rintro ⟨d, a, e, heq⟩
    obtain ⟨b, c, hlast⟩ : ∃ b c, d :: e = b ++ [c] := by
      rcases List.eq_nil_or_concat (d :: e) with h | ⟨b, c, h⟩
      · cases h
      · exact ⟨b, c, by rw [h, List.concat_eq_append]⟩
    have htrim : trimEnd isBlank line = a ++ '\r' :: (b ++ [c]) := by
      rw [← heq, ← hlast]
      simp
    refine ⟨b, c, ?_, ?_⟩
    · refine trimEnd_eq_self_iff.1 (trimEnd_trimEnd isBlank line) c ?_
      rw [htrim, ← List.cons_append, ← List.append_assoc, List.getLast?_concat]
      rfl
    · exact List.IsInfix.trans ⟨a, [], by rw [htrim, List.append_nil]⟩ (prefix_trimEnd isBlank line).isInfix
  · rintro ⟨b, c, hc, h⟩
    rw [← List.cons_append, ← concat_infix_trimEnd_iff hc, List.cons_append] at h
    obtain ⟨a, e, heq⟩ := h
    rw [← heq, List.append_assoc, List.cons_append]
    exact returnsInside_of_append (by simp)

/-! ## What a reader takes for lines -/

theorem length_cutAt (sep : Char) (s : List Char) : (cutAt sep s).length = s.count sep + 1 := by
  induction s with
  | nil => rfl
  | cons c s ih =>
    by_cases hsep : c = sep
    · rw [hsep, cutAt_self, List.length_cons, ih, List.count_cons_self]
    · obtain ⟨l, ls, hs, hc⟩ := exists_cutAt_cons hsep s
      rw [hs, List.length_cons] at ih
      rw [hc, List.length_cons, ih, List.count_cons_of_ne hsep]

theorem cutAt_append_separator (sep : Char) (s t : List Char) :
    cutAt sep (s ++ sep :: t) = cutAt sep s ++ cutAt sep t := by
  induction s with
  | nil => exact cutAt_self sep t
  | cons c s ih =>
    by_cases hsep : c = sep
    · rw [hsep, List.cons_append, cutAt_self, cutAt_self, ih, List.cons_append]
    · obtain ⟨l, ls, hs, hc⟩ := exists_cutAt_cons hsep s
      obtain ⟨l', ls', hs', hc'⟩ := exists_cutAt_cons hsep (s ++ sep :: t)
      rw [ih, hs, List.cons_append] at hs'
      obtain ⟨rfl, rfl⟩ := List.cons.inj hs'
      rw [List.cons_append, hc', hc, List.cons_append]

end Text

namespace Script.Lexer

variable {s line : List Char}

theorem mem_normalize_iff : '\n' ∈ normalize s ↔ '\n' ∈ s ∨ '\r' ∈ s := by
  induction s using normalize.induct with
  | case1 => simp [normalize]
  | case2 s ih => simp [normalize]
  | case3 s hn ih =>
    rw [normalize]
    · simp
    · exact hn
  | case4 c s h₁ h₂ ih =>
    rw [normalize]
    · have hc : '\r' ≠ c := fun h => h₂ h.symm
      simp only [List.mem_cons, ih, hc, false_or, or_assoc]
    all_goals assumption

/-- The end of a line is read apart from what stands around it, with a carriage return that belongs to it. -/
theorem normalize_line (line rest : List Char) :
    normalize (line ++ '\n' :: rest) = normalize (Text.withoutReturn line) ++ '\n' :: normalize rest := by
  unfold Text.withoutReturn
  split
  · rename_i hlast
    obtain ⟨s, rfl⟩ := List.getLast?_eq_some_iff.1 hlast
    rw [List.dropLast_concat, List.append_assoc, normalize_append_of_head? (by simp)]
    rfl
  · rename_i hlast
    rw [normalize_append hlast]
    rfl

end Script.Lexer

namespace Listing

open Text

variable {p : Program} {l l' : Listing} {s : Segment} {code : String} {line indent : List Char} {index : Nat}

/-- The lines that a reader of a listing counts: those that end in its text. -/
def physicalLines (l : Listing) : List (List Char) :=
  (Text.lines (Script.Lexer.normalize l.source)).dropLast

/-- The lines that a reader takes one line of a listing for. -/
def readAs (line : ListingLine) : List (List Char) :=
  Text.lines (Script.Lexer.normalize (withoutReturn line.text))

/-- A reader takes each line of a listing apart from the others. -/
theorem physicalLines_eq (h : l.lines ≠ []) : l.physicalLines = l.lines.flatMap readAs := by
  have hlines (ls : List ListingLine) :
      Text.lines (Script.Lexer.normalize (unlines (ls.map (·.text)))) = ls.flatMap readAs ++ [[]] := by
    induction ls with
    | nil => rfl
    | cons line ls ih =>
      have hunlines :
          unlines ((line :: ls).map (·.text)) = line.text ++ '\n' :: unlines (ls.map (·.text)) := by
        simp [unlines]
      rw [hunlines, Script.Lexer.normalize_line, Text.lines, cutAt_append_separator, ← Text.lines,
        ← Text.lines, ih, List.flatMap_cons, List.append_assoc]
      rfl
  rw [physicalLines, source, joinWith_append_newline (by simpa using h), hlines, List.dropLast_concat]

/-- A line is one line for a reader unless it has a return inside. -/
theorem length_readAs_iff {line : ListingLine} (h : '\n' ∉ line.text) :
    (readAs line).length = 1 ↔ ¬ ReturnsInside line.text := by
  have hnewline : '\n' ∉ withoutReturn line.text := fun hmem => h (withoutReturn_subset _ hmem)
  rw [readAs, Text.lines, length_cutAt, Nat.add_eq_right, List.count_eq_zero,
    Script.Lexer.mem_normalize_iff, mem_withoutReturn_iff]
  simp [hnewline]

theorem readAs_of_not_returnsInside {line : ListingLine} (h : '\n' ∉ line.text)
    (hline : ¬ ReturnsInside line.text) : readAs line = [withoutReturn line.text] := by
  have hnewline : '\n' ∉ withoutReturn line.text := fun hmem => h (withoutReturn_subset _ hmem)
  have hreturn : '\r' ∉ withoutReturn line.text := fun hmem => hline (mem_withoutReturn_iff.1 hmem)
  rw [readAs, Script.Lexer.normalize_of_not_mem hreturn, Text.lines, cutAt_of_not_mem hnewline]

/-! ## Returns in directives -/

theorem newline_not_mem_of_mem_dedent (h : line ∈ dedent (expressionLines code)) : '\n' ∉ line := by
  obtain ⟨m, hm, hsubset⟩ := subset_of_mem_dedent h
  exact fun hmem => not_mem_of_mem_cutAt hm (hsubset hmem)

/-- The lines of an expression hold what its code holds between line feeds. -/
theorem exists_infix_expressionLines_iff (code : String) {c d : Char} {x : List Char}
    (hx : '\n' ∉ c :: (x ++ [d])) :
    (∃ line ∈ expressionLines code, c :: (x ++ [d]) <:+: line) ↔ c :: (x ++ [d]) <:+: code.toList := by
  rw [List.mem_cons, not_or, List.mem_append, not_or, List.mem_singleton] at hx
  rw [expressionLines, Text.lines, exists_infix_cutAt_iff (by simp [hx]), trim, ← List.cons_append,
    concat_infix_trimEnd_iff (by simpa using Ne.symm hx.2.2), List.cons_append,
    cons_infix_dropWhile_iff (by simpa using Ne.symm hx.1)]

/-- The lines of a statement hold what its code holds between line feeds, from a character that is no
part of a margin to one that is not blank. -/
theorem exists_infix_statementLines_iff (code : String) {c d : Char} {x : List Char}
    (hx : '\n' ∉ c :: (x ++ [d])) (hc : isIndent c = false) (hd : isBlank d = false) :
    (∃ line ∈ statementLines code, c :: (x ++ [d]) <:+: line) ↔ c :: (x ++ [d]) <:+: code.toList := by
  have hne : dedent (expressionLines code) ≠ [] := by
    rw [dedent, ne_eq, List.map_eq_nil_iff]
    exact cutAt_ne_nil _ _
  rw [statementLines, Text.lines, exists_infix_cutAt_iff hx, ← List.cons_append,
    concat_infix_trimEnd_iff hd, List.cons_append,
    ← exists_infix_joinWith_iff hne (fun _ h => newline_not_mem_of_mem_dedent h) hx,
    exists_infix_dedent_iff hc, exists_infix_expressionLines_iff code hx]

theorem returnsInside_expressionLines_iff : (∃ line ∈ expressionLines code, ReturnsInside line) ↔
    ∃ c, c ≠ '\n' ∧ ['\r', c] <:+: code.toList := by
  have hiff (c : Char) (hc : c ≠ '\n') :=
    exists_infix_expressionLines_iff code (c := '\r') (d := c) (x := []) (by simpa using hc.symm)
  constructor
  · rintro ⟨line, hline, c, h⟩
    have hc : c ≠ '\n' := by
      rintro rfl
      exact not_mem_of_mem_cutAt hline (h.subset (by simp))
    exact ⟨c, hc, (hiff c hc).1 ⟨line, hline, h⟩⟩
  · rintro ⟨c, hc, h⟩
    obtain ⟨line, hline, h⟩ := (hiff c hc).2 h
    exact ⟨line, hline, c, h⟩

theorem returnsInside_statementLines_iff :
    (∃ line ∈ statementLines code, ReturnsInside (trimEnd isBlank line)) ↔
      ∃ x c, isBlank c = false ∧ '\n' ∉ x ∧ '\r' :: (x ++ [c]) <:+: code.toList := by
  have hiff (x : List Char) (c : Char) (hx : '\n' ∉ x) (hc : isBlank c = false) :=
    exists_infix_statementLines_iff code (c := '\r') (d := c) (x := x)
      (by
        have hne : '\n' ≠ c := by
          rintro rfl
          cases hc
        simp [hx, hne])
      (by decide) hc
  constructor
  · rintro ⟨line, hline, h⟩
    obtain ⟨x, c, hc, h⟩ := returnsInside_trimEnd_iff.1 h
    have hx : '\n' ∉ x := fun hmem => not_mem_of_mem_cutAt hline (h.subset (by simp [hmem]))
    exact ⟨x, c, hc, hx, (hiff x c hx hc).1 ⟨line, hline, h⟩⟩
  · rintro ⟨x, c, hc, hx, h⟩
    obtain ⟨line, hline, h⟩ := (hiff x c hx hc).2 h
    exact ⟨line, hline, returnsInside_trimEnd_iff.2 ⟨x, c, hc, h⟩⟩

end Listing

namespace Segment

open Text Listing

variable {s : Segment} {index : Nat} {line indent : List Char}

/-- A directive that writes lines has a carriage return with something behind it on the same line: any
character in an expression, and one that is not cut off with the blanks at the end in a statement. -/
def ReturnsInside (s : Segment) : Prop :=
  match s.kind with
  | .statement => role (statementLines s.code) ≠ .closer ∧
      ∃ x c, isBlank c = false ∧ '\n' ∉ x ∧ '\r' :: (x ++ [c]) <:+: s.code.toList
  | .interpolation => ∃ c, c ≠ '\n' ∧ ['\r', c] <:+: s.code.toList
  | _ => False

theorem returnsInside_indented (h : Text.ReturnsInside line) (indent : List Char) :
    Text.ReturnsInside (indented indent line) := by
  unfold indented
  split
  · rename_i hempty
    rw [List.isEmpty_iff] at hempty
    rwa [hempty] at h
  · exact h.of_infix (List.suffix_append indent line).isInfix

theorem returnsInside_of_indented (hi : '\r' ∉ indent) (h : Text.ReturnsInside (indented indent line)) :
    Text.ReturnsInside line := by
  unfold indented at h
  split at h
  · exact h.of_infix List.nil_infix
  · exact (returnsInside_append_iff hi).1 h

theorem not_returnsInside_of_not_mem (h : '\r' ∉ line) : ¬ Text.ReturnsInside line := by
  rintro ⟨c, hc⟩
  exact h (hc.subset List.mem_cons_self)

theorem kind_of_opens (h : s.opens = true) :
    s.kind = .statement ∧ role (statementLines s.code) ≠ .closer ∧ lastLine (statementLines s.code) ≠ [] := by
  simp only [Segment.opens, Listing.opens, Bool.and_eq_true, decide_eq_true_eq, bne_iff_ne,
    Bool.not_eq_true', List.isEmpty_eq_false_iff] at h
  exact ⟨h.1.1, h.1.2, h.2.1⟩

theorem returnsInside_statement_iff (hkind : s.kind = .statement)
    (hrole : role (statementLines s.code) ≠ .closer) :
    s.ReturnsInside ↔ ∃ m ∈ statementLines s.code, Text.ReturnsInside (trimEnd isBlank m) := by
  rw [ReturnsInside, hkind, returnsInside_statementLines_iff]
  exact and_iff_right hrole

theorem returnsInside_interpolation_iff (hkind : s.kind = .interpolation) :
    s.ReturnsInside ↔ ∃ m ∈ expressionLines s.code, Text.ReturnsInside m := by
  rw [ReturnsInside, hkind, returnsInside_expressionLines_iff]

/-- A block stands at an indentation without returns, unless the line that opens it has one inside. -/
theorem return_not_mem_innerIndent (hi : '\r' ∉ indent) (hs : ¬ s.ReturnsInside) (h : s.opens = true) :
    '\r' ∉ innerIndent indent (statementLines s.code) := by
  obtain ⟨hkind, hrole, hlast⟩ := kind_of_opens h
  rw [returnsInside_statement_iff hkind hrole] at hs
  obtain ⟨m, hm⟩ : ∃ m, ((statementLines s.code).filter fun l => !isBlankText l).getLast? = some m := by
    rw [lastLine] at hlast
    cases hm : ((statementLines s.code).filter fun l => !isBlankText l).getLast? with
    | none =>
      rw [hm] at hlast
      exact absurd rfl hlast
    | some m => exact ⟨m, rfl⟩
  obtain ⟨hmem, hblank⟩ := List.mem_filter.1 (List.mem_of_getLast? hm)
  rw [innerIndent, lastLine, hm, Option.getD_some]
  simp only [List.mem_append, not_or]
  refine ⟨⟨hi, fun hreturn => hs ⟨m, hmem, ?_⟩⟩, by decide⟩
  -- Something behind the leading blanks is not blank.
  obtain ⟨c, tail, hdrop⟩ : ∃ c tail, m.dropWhile isBlank = c :: tail := by
    refine List.exists_cons_of_ne_nil fun hnil => ?_
    rw [List.dropWhile_eq_nil_iff] at hnil
    simp only [isBlankText, Bool.not_eq_true', List.all_eq_false] at hblank
    obtain ⟨d, hd, hne⟩ := hblank
    exact hne (hnil d hd)
  have hc : isBlank c = false := by
    have hhead := List.head?_dropWhile_not isBlank m
    rw [hdrop] at hhead
    simpa using hhead
  obtain ⟨a, b, hab⟩ := List.append_of_mem hreturn
  refine returnsInside_trimEnd_iff.2 ⟨b, c, hc, a, tail, ?_⟩
  rw [leadingBlanks] at hab
  conv_rhs => rw [← List.takeWhile_append_dropWhile (p := isBlank) (l := m), hab, hdrop]
  simp

/-- The lines of a segment have returns inside only if its code has, or the indentation. -/
theorem not_returnsInside_of_mem_text (hi : '\r' ∉ indent) (hs : ¬ s.ReturnsInside)
    (h : line ∈ s.text indent index) : ¬ Text.ReturnsInside line := by
  rcases mem_text_cases h with ⟨call, hcall, rfl⟩ | ⟨hkind, h⟩ | ⟨hkind, hrole, m, hm, rfl⟩ | ⟨hopens, rfl⟩
  · exact fun h => not_returnsInside_of_not_mem hcall.2 (returnsInside_of_indented hi h)
  · exact fun hline => hs ((returnsInside_interpolation_iff hkind).2 ⟨line, h, hline⟩)
  · exact fun hline => hs ((returnsInside_statement_iff hkind hrole).2
      ⟨m, hm, returnsInside_of_indented hi hline⟩)
  · refine not_returnsInside_of_not_mem ?_
    rw [List.mem_append, not_or]
    exact ⟨return_not_mem_innerIndent hi hs hopens, by decide⟩

/-- Where the code of a directive has a return inside of a line, one of the lines that it writes has. -/
theorem exists_returnsInside_text (hs : s.ReturnsInside) (indent : List Char) (index : Nat) :
    ∃ line ∈ s.text indent index, Text.ReturnsInside line := by
  cases hkind : s.kind with
  | statement =>
    have hrole : role (statementLines s.code) ≠ .closer := by
      rw [ReturnsInside, hkind] at hs
      exact hs.1
    obtain ⟨m, hm, h⟩ := (returnsInside_statement_iff hkind hrole).1 hs
    refine ⟨indented indent (trimEnd isBlank m), ?_, returnsInside_indented h indent⟩
    simp only [Segment.text, hkind, if_neg hrole, statementText]
    exact List.mem_append_left _ (List.mem_map.2 ⟨m, hm, rfl⟩)
  | interpolation =>
    obtain ⟨m, hm, h⟩ := (returnsInside_interpolation_iff hkind).1 hs
    refine ⟨m, ?_, h⟩
    simp only [Segment.text, hkind]
    exact List.mem_cons_of_mem _ (List.mem_append_left _ hm)
  | _ =>
    rw [ReturnsInside, hkind] at hs
    exact hs.elim

end Segment

namespace Listing

open Text

variable {p : Program} {l : Listing}

theorem newline_not_mem_innerIndent {ls : List (List Char)} {indent : List Char} (hi : '\n' ∉ indent)
    (hls : ∀ line ∈ ls, '\n' ∉ line) : '\n' ∉ innerIndent indent ls := by
  simp only [innerIndent, List.mem_append, not_or]
  refine ⟨⟨hi, fun hmem => ?_⟩, by decide⟩
  have hlast := (List.takeWhile_prefix _).subset hmem
  rcases lastLine_eq_nil_or_mem ls with h | h
  · rw [h] at hlast
    cases hlast
  · exact hls _ h hlast

/-- The lines of a listing are cut at every line feed. -/
theorem newline_not_mem_lines (h : ofProgram p = .ok l) : ∀ line ∈ l.lines, '\n' ∉ line.text := by
  obtain ⟨blocks, hemits⟩ := exists_emits_of_ofProgram h
  have hstatement (s : Segment) (line : List Char) (hline : line ∈ statementLines s.code) : '\n' ∉ line :=
    not_mem_of_mem_cutAt hline
  have hindented (indent text : List Char) (hi : '\n' ∉ indent) (ht : '\n' ∉ text) :
      '\n' ∉ indented indent text := by
    unfold indented
    split <;> simp [hi, ht]
  refine (hemits.invariant ('\n' ∉ ·) ('\n' ∉ ·) List.not_mem_nil ?_ ?_ (by simp) (by simp)).1
  · intro s _ indent index hi line hline
    rcases mem_text_cases hline with ⟨call, hcall, rfl⟩ | ⟨-, hline⟩ | ⟨-, -, m, hm, rfl⟩ | ⟨-, rfl⟩
    · exact hindented indent call hi hcall.1
    · exact not_mem_of_mem_cutAt hline
    · exact hindented indent _ hi fun hmem => hstatement s m hm (trimEnd_subset _ _ hmem)
    · rw [List.mem_append, not_or]
      exact ⟨newline_not_mem_innerIndent hi (hstatement s), by decide⟩
  · exact fun s _ indent hi _ => newline_not_mem_innerIndent hi (hstatement s)

/-- The lines that a segment writes are one of the blocks of a listing. -/
theorem Emits.exists_text {l l' : Listing} {index : Nat} {ss : List Segment} {s : Segment}
    {blocks : List (List (List Char))} (h : Emits l index ss blocks l') (hs : s ∈ ss) :
    ∃ block ∈ blocks, ∃ indent index, s.text indent index = block := by
  induction h with
  | nil => cases hs
  | @cons l m l' index t ss block blocks hadd htext _ ih =>
    rcases List.mem_cons.1 hs with rfl | hs
    · obtain ⟨-, -, rfl⟩ := addSegment_eq_ok.1 hadd
      exact ⟨block, List.mem_cons_self, indentIn (l.blocksAround s), index,
        by simpa [withSegment, Function.comp_def] using htext⟩
    · obtain ⟨other, hmem, htext⟩ := ih hs
      exact ⟨other, List.mem_cons_of_mem _ hmem, htext⟩

/-- A listing has returns inside of its lines when a directive has, and only then. -/
theorem exists_returnsInside_iff (h : ofProgram p = .ok l) :
    (∃ line ∈ l.lines, ReturnsInside line.text) ↔ ∃ s ∈ p.segments, s.ReturnsInside := by
  obtain ⟨blocks, hemits⟩ := exists_emits_of_ofProgram h
  constructor
  · intro hline
    by_contra hnone
    simp only [not_exists, not_and] at hnone
    obtain ⟨hlines, -⟩ := hemits.invariant (¬ ReturnsInside ·) ('\r' ∉ ·) List.not_mem_nil
      (fun s hs _ _ hi _ hline => Segment.not_returnsInside_of_mem_text hi (hnone s hs) hline)
      (fun s hs _ hi hopens => Segment.return_not_mem_innerIndent hi (hnone s hs) hopens)
      (by simp) (by simp)
    obtain ⟨line, hmem, hreturn⟩ := hline
    exact hlines line hmem hreturn
  · rintro ⟨s, hs, hreturn⟩
    obtain ⟨block, hblock, indent, index, rfl⟩ := hemits.exists_text hs
    obtain ⟨text, hmem, htext⟩ := Segment.exists_returnsInside_text hreturn indent index
    obtain ⟨i, hi, hget⟩ := List.getElem_of_mem hblock
    refine ⟨⟨text, i⟩, ?_, htext⟩
    rw [hemits.lines_eq, List.nil_append, List.mem_flatMap]
    refine ⟨(blocks[i], i), ?_, List.mem_map.2 ⟨text, hget.symm ▸ hmem, rfl⟩⟩
    rw [List.mk_mem_zipIdx_iff_getElem?]
    exact List.getElem?_eq_getElem hi

theorem length_le_length_flatMap {α β : Type} {f : α → List β} {as : List α}
    (h : ∀ a ∈ as, f a ≠ []) : as.length ≤ (as.flatMap f).length ∧
      (as.length = (as.flatMap f).length ↔ ∀ a ∈ as, (f a).length = 1) := by
  induction as with
  | nil => simp
  | cons a as ih =>
    rw [List.forall_mem_cons] at h
    obtain ⟨hle, hiff⟩ := ih h.2
    have hpos := List.length_pos_iff.2 h.1
    rw [List.flatMap_cons, List.length_append, List.length_cons, List.forall_mem_cons, ← hiff]
    omega

/-- A reader counts at least the lines that the line map has entries for, those of each line of the
listing one after another. It counts just as many, and the entries are about its lines, unless a
statement or an interpolation has a carriage return inside of a line. -/
theorem lineMap_counts_iff (h : ofProgram p = .ok l) (hne : l.lines ≠ []) :
    l.physicalLines = l.lines.flatMap readAs ∧ l.lineMap.length ≤ l.physicalLines.length ∧
      (l.lineMap.length = l.physicalLines.length ↔ ∀ s ∈ p.segments, ¬ s.ReturnsInside) ∧
      ((∀ s ∈ p.segments, ¬ s.ReturnsInside) →
        l.physicalLines = l.lines.map fun line => withoutReturn line.text) := by
  have hlines := newline_not_mem_lines h
  have hnone : (∀ s ∈ p.segments, ¬ s.ReturnsInside) ↔ ∀ line ∈ l.lines, ¬ ReturnsInside line.text := by
    simpa only [not_exists, not_and] using not_congr (exists_returnsInside_iff h).symm
  have hlength : l.lineMap.length = l.lines.length := by simp [lineMap]
  obtain ⟨hle, hiff⟩ := length_le_length_flatMap (f := readAs)
    fun (line : ListingLine) (_ : line ∈ l.lines) => cutAt_ne_nil '\n' _
  refine ⟨physicalLines_eq hne, ?_, ?_, fun hs => ?_⟩
  · rwa [physicalLines_eq hne, hlength]
  · rw [physicalLines_eq hne, hlength, hiff, hnone]
    exact forall₂_congr fun line hline => length_readAs_iff (hlines line hline)
  · rw [physicalLines_eq hne, List.map_eq_flatMap]
    exact List.flatMap_congr fun line hline =>
      readAs_of_not_returnsInside (hlines line hline) (hnone.1 hs line hline)

/-- A template whose statement goes on behind a carriage return. -/
def returnedStatement : String := "<% x = 1\ry = 2 %>a"

theorem returnedStatement_counts :
    ((Program.parse "page" returnedStatement).toOption.bind fun p => (ofProgram p).toOption).any
      (fun l => l.lineMap == [0, 1] && l.physicalLines.length == 3) = true := by
  decide +kernel

/-- A reader counts three lines where the line map has two entries, because of the statement. -/
theorem returnedStatement_miscounted : ∃ p l, Program.parse "page" returnedStatement = .ok p ∧
    ofProgram p = .ok l ∧ l.lines ≠ [] ∧ l.lineMap = [0, 1] ∧ l.physicalLines.length = 3 ∧
      ∃ s ∈ p.segments, s.ReturnsInside := by
  have hcounts := returnedStatement_counts
  cases hp : Program.parse "page" returnedStatement with
  | error e =>
    rw [hp] at hcounts
    cases hcounts
  | ok p =>
    cases hl : ofProgram p with
    | error e =>
      simp only [hp, Except.toOption, Option.bind_some, hl] at hcounts
      cases hcounts
    | ok l =>
      simp only [hp, Except.toOption, Option.bind_some, hl, Option.any_some, Bool.and_eq_true,
        beq_iff_eq] at hcounts
      obtain ⟨hmap, hcount⟩ := hcounts
      have hne : l.lines ≠ [] := by
        intro hnil
        rw [lineMap, hnil] at hmap
        cases hmap
      refine ⟨p, l, rfl, hl, hne, hmap, hcount, ?_⟩
      by_contra hnone
      simp only [not_exists, not_and] at hnone
      have hagrees := (lineMap_counts_iff hl hne).2.2.1.2 hnone
      rw [hmap, hcount] at hagrees
      cases hagrees

end Listing

end Stencil
