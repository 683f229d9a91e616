import Mathlib.Data.List.Basic
import Mathlib.Data.List.DropRight
import Mathlib.Data.List.Induction
import Stencil.Proofs.Lines

/-!
# Codes on one line

Trimming and margins of a text of which only one line is not blank. The line feeds before the line and the
blanks behind it are removed, and of its indentation as much as other lines share; so a statement on one line
has that line and no other.
-/

namespace Stencil

namespace Text

variable {c sep : Char} {s t line : List Char} {p : Char → Bool}

theorem dropWhile_eq_self_iff : s.dropWhile p = s ↔ ∀ c ∈ s.head?, p c = false := by
  cases s with
  | nil => simp
  | cons c s =>
    by_cases hc : p c = true
    · refine iff_of_false (fun h => ?_) (by simp [hc])
      rw [List.dropWhile_cons_of_pos hc] at h
      have hlength := (List.dropWhile_suffix (l := s) p).length_le
      rw [h, List.length_cons] at hlength
      omega
    · exact iff_of_true (List.dropWhile_cons_of_neg hc) (by simpa using hc)

theorem trimEnd_eq_self_iff : trimEnd p s = s ↔ ∀ c ∈ s.getLast?, p c = false := by
  rw [trimEnd, List.reverse_eq_iff, dropWhile_eq_self_iff, List.head?_reverse]

theorem trimEnd_append_of_forall (ht : ∀ c ∈ t, p c = true) : trimEnd p (s ++ t) = trimEnd p s := by
  rw [trimEnd, List.reverse_append, List.dropWhile_append_of_pos fun c hc => ht c (List.mem_reverse.1 hc)]
  rfl

/-- What does not end in a character of a class is kept when such characters are removed behind it. -/
theorem exists_trimEnd_append (hs : trimEnd p s = s) (t : List Char) :
    ∃ u, u ⊆ t ∧ trimEnd p (s ++ t) = s ++ u := by
  induction t using List.reverseRecOn with
  | nil => exact ⟨[], List.Subset.refl _, by rw [List.append_nil, hs]⟩
  | append_singleton t c ih =>
    by_cases hc : p c = true
    · obtain ⟨u, hu, htrim⟩ := ih
      refine ⟨u, List.subset_append_of_subset_left _ hu, ?_⟩
      rw [← List.append_assoc, trimEnd_append_of_forall (by simpa using hc), htrim]
    · exact ⟨t ++ [c], List.Subset.refl _, trimEnd_eq_self_iff.2 (by simpa using hc)⟩

theorem trimEnd_trimEnd (p : Char → Bool) (s : List Char) : trimEnd p (trimEnd p s) = trimEnd p s := by
  rw [trimEnd, trimEnd, List.reverse_reverse, List.dropWhile_idempotent]

theorem prefix_trimEnd (p : Char → Bool) (s : List Char) : trimEnd p s <+: s := by
  rw [← List.reverse_suffix, trimEnd, List.reverse_reverse]
  exact List.dropWhile_suffix p

theorem trim_trim (p : Char → Bool) (s : List Char) : trim p (trim p s) = trim p s := by
  have hhead : (trim p s).dropWhile p = trim p s := by
    refine dropWhile_eq_self_iff.2 fun c hc => ?_
    obtain ⟨t, ht⟩ := List.head?_eq_some_iff.1 hc
    obtain ⟨u, hu⟩ := prefix_trimEnd p (s.dropWhile p)
    have hdrop := List.head?_dropWhile_not p s
    rw [← hu, ← trim, ht] at hdrop
    exact hdrop
  rw [trim, hhead, trim, trimEnd_trimEnd]

/-- A text that trimming leaves alone begins and ends in no character of the class. -/
theorem trim_eq_self_iff :
    trim p s = s ↔ (∀ c ∈ s.head?, p c = false) ∧ ∀ c ∈ s.getLast?, p c = false := by
  rw [← dropWhile_eq_self_iff, ← trimEnd_eq_self_iff, trim]
  constructor
  · intro h
    have hdrop : s.dropWhile p = s := by
      refine (List.dropWhile_suffix p).eq_of_length_le ?_
      conv_lhs => rw [← h]
      exact (prefix_trimEnd p _).length_le
    exact ⟨hdrop, by rwa [hdrop] at h⟩
  · rintro ⟨hdrop, htrim⟩
    rw [hdrop, htrim]

theorem length_commonStart_le (a b : List Char) : (commonStart a b).length ≤ a.length := by
  fun_induction commonStart a b with
  | case1 a as b bs _ ih => exact Nat.succ_le_succ ih
  | case2 => exact Nat.zero_le _
  | case3 => exact Nat.zero_le _

theorem length_foldl_commonStart_le (indent : List Char) (indents : List (List Char)) :
    (indents.foldl commonStart indent).length ≤ indent.length := by
  induction indents generalizing indent with
  | nil => exact Nat.le_refl _
  | cons b indents ih => exact (ih _).trans (length_commonStart_le indent b)

theorem cutAt_append_of_not_mem (hs : sep ∉ s) (t : List Char) :
    ∃ l ls, cutAt sep t = l :: ls ∧ cutAt sep (s ++ t) = (s ++ l) :: ls := by
  obtain ⟨l, ls, ht⟩ := List.exists_cons_of_ne_nil (cutAt_ne_nil sep t)
  refine ⟨l, ls, ht, ?_⟩
  induction s with
  | nil => exact ht
  | cons c s ih =>
    rw [List.mem_cons, not_or] at hs
    obtain ⟨m, ms, hm, hc⟩ := exists_cutAt_cons (Ne.symm hs.1) (s ++ t)
    obtain ⟨rfl, rfl⟩ := List.cons.inj (hm.symm.trans (ih hs.2))
    exact hc

theorem isBlank_of_isIndent (hc : isIndent c = true) : isBlank c = true := by
  simp only [isIndent, Bool.or_eq_true, beq_iff_eq] at hc
  rcases hc with rfl | rfl <;> rfl

/-- A line that begins at an indentation is not moved to the left of it by other lines. -/
theorem exists_dedent_cons {indent : List Char} (hindent : ∀ c ∈ indent, isIndent c = true)
    (hhead : ∀ c ∈ s.head?, isIndent c = false) (hs : s ≠ []) (ls : List (List Char)) :
    ∃ indent' ls', indent' <:+ indent ∧ dedent ((indent ++ s) :: ls) = (indent' ++ s) :: ls' ∧
      ∀ l' ∈ ls', ∃ l ∈ ls, l' ⊆ l := by
  obtain ⟨c, s, rfl⟩ := List.exists_cons_of_ne_nil hs
  have hc : isIndent c = false := hhead c rfl
  have hsome : (indent ++ c :: s).all isIndent = false := by
    simp [hc]
  have htake : (indent ++ c :: s).takeWhile isIndent = indent := by
    rw [List.takeWhile_append_of_pos hindent, List.takeWhile_cons_of_neg (by simp [hc]), List.append_nil]
  have hmargin : (margin ((indent ++ c :: s) :: ls)).length ≤ indent.length := by
    rw [margin, List.filter_cons_of_pos (by simp [hc]), List.map_cons, htake]
    exact length_foldl_commonStart_le ..
  refine ⟨indent.drop (margin ((indent ++ c :: s) :: ls)).length,
    ls.map fun l => if l.all isIndent then [] else l.drop (margin ((indent ++ c :: s) :: ls)).length,
    List.drop_suffix .., ?_, fun l' hl' => ?_⟩
  · rw [← List.drop_append_of_le_length hmargin]
    rw [dedent, List.map_cons, hsome]
    rfl
  · obtain ⟨l, hl, rfl⟩ := List.mem_map.1 hl'
    refine ⟨l, hl, ?_⟩
    split
    · exact List.nil_subset _
    · exact (List.drop_suffix ..).subset

/-- Line feeds before and behind a text without any are removed, and nothing of the text. -/
theorem exists_trim_newlines {feeds tail : List Char} (hfeeds : ∀ c ∈ feeds, c = '\n') (hs : s ≠ [])
    (hbreak : '\n' ∉ s) : ∃ rest, rest ⊆ tail ∧ trim (· == '\n') (feeds ++ (s ++ tail)) = s ++ rest := by
  have hkeeps {c : Char} (hc : c ∈ s) : (c == '\n') = false := beq_eq_false_iff_ne.2 fun h => hbreak (h ▸ hc)
  have hhead : (s ++ tail).dropWhile (· == '\n') = s ++ tail := by
    refine dropWhile_eq_self_iff.2 fun c hc => ?_
    rw [List.head?_append_of_ne_nil _ hs] at hc
    exact hkeeps (List.mem_of_mem_head? hc)
  have hlast : trimEnd (· == '\n') s = s :=
    trimEnd_eq_self_iff.2 fun c hc => hkeeps (List.mem_of_mem_getLast? hc)
  obtain ⟨rest, hrest, htrim⟩ := exists_trimEnd_append hlast tail
  refine ⟨rest, hrest, ?_⟩
  rw [trim, List.dropWhile_append_of_pos fun c hc => beq_iff_eq.2 (hfeeds c hc), hhead, htrim]

/-- Blank lines are blanks behind the line before them. -/
theorem exists_joinWith_blank {ls : List (List Char)} (hls : ∀ l ∈ ls, ∀ c ∈ l, isBlank c = true)
    (s : List Char) :
    ∃ rest, (∀ c ∈ rest, isBlank c = true) ∧ joinWith ['\n'] (s :: ls) = s ++ rest := by
  cases ls with
  | nil => exact ⟨[], by simp, (List.append_nil s).symm⟩
  | cons l ls =>
    refine ⟨['\n'] ++ joinWith ['\n'] (l :: ls), fun c hc => ?_, joinWith_cons_cons ..⟩
    have hnewline : isBlank '\n' = true := rfl
    obtain hc | hc := List.mem_append.1 hc
    · exact List.mem_singleton.1 hc ▸ hnewline
    · obtain hc | ⟨k, hk, hc⟩ := mem_of_mem_joinWith hc
      · exact List.mem_singleton.1 hc ▸ hnewline
      · exact hls k hk c hc

end Text

namespace Listing

open Text

/-- A code on one line reads as that line, whatever line feeds and indentation stand before it and whatever
blanks stand behind it. -/
theorem statementLines_line {feeds indent line tail : List Char} (hfeeds : ∀ c ∈ feeds, c = '\n')
    (hindent : ∀ c ∈ indent, isIndent c = true) (htail : ∀ c ∈ tail, isBlank c = true) (hline : line ≠ [])
    (hbreak : '\n' ∉ line) (htrim : trim isBlank line = line) :
    ∃ l, statementLines (String.ofList (feeds ++ indent ++ line ++ tail)) = [l] ∧ trim isBlank l = line := by
  obtain ⟨hhead, hlast⟩ := trim_eq_self_iff.1 htrim
  have hnewline : '\n' ∉ indent ++ line := by
    rw [List.mem_append, not_or]
    exact ⟨fun h => absurd (hindent _ h) (by decide), hbreak⟩
  obtain ⟨blanks, hblanks, hcode⟩ :=
    @exists_trim_newlines (indent ++ line) feeds tail hfeeds (by simp [hline]) hnewline
  -- The first line is the only one that is not blank.
  obtain ⟨l, ls, hcut, hlines⟩ := cutAt_append_of_not_mem hnewline blanks
  have hblank {k : List Char} (hk : k ∈ l :: ls) {c : Char} (hc : c ∈ k) : isBlank c = true :=
    htail c (hblanks (subset_of_mem_cutAt (hcut ▸ hk) hc))
  have hindented : ∀ c ∈ (line ++ l).head?, isIndent c = false := by
    intro c hc
    rw [List.head?_append_of_ne_nil _ hline] at hc
    exact Bool.eq_false_iff.2 fun h => absurd (isBlank_of_isIndent h) (by simp [hhead c hc])
  obtain ⟨indent', ls', hindent', hdedent, hls'⟩ := exists_dedent_cons hindent hindented (by simp [hline]) ls
  have hblank' : ∀ k ∈ ls', ∀ c ∈ k, isBlank c = true := by
    intro k hk c hc
    obtain ⟨m, hm, hsubset⟩ := hls' k hk
    exact hblank (List.mem_cons_of_mem _ hm) (hsubset hc)
  obtain ⟨rest, hrest, hjoin⟩ := exists_joinWith_blank hblank' (indent' ++ (line ++ l))
  have hbehind : ∀ c ∈ l ++ rest, isBlank c = true :=
    List.forall_mem_append.2 ⟨fun c hc => hblank List.mem_cons_self hc, hrest⟩
  have hend : trimEnd isBlank (indent' ++ line) = indent' ++ line := by
    rw [trimEnd_eq_self_iff, List.getLast?_append_of_ne_nil _ hline]
    exact hlast
  have hbody : trimEnd isBlank (joinWith ['\n'] ((indent' ++ (line ++ l)) :: ls')) = indent' ++ line := by
    rw [hjoin, ← List.append_assoc, List.append_assoc _ l, trimEnd_append_of_forall hbehind, hend]
  refine ⟨indent' ++ line, ?_, ?_⟩
  · rw [List.append_assoc, List.append_assoc, ← List.append_assoc indent]
    simp only [statementLines, expressionLines, String.toList_ofList, hcode, Text.lines, hlines]
    rw [List.append_assoc, hdedent, hbody]
    refine cutAt_of_not_mem fun h => hnewline ?_
    exact (List.mem_append.1 h).elim (fun h => List.mem_append_left _ (hindent'.subset h))
      (List.mem_append_right _)
  · rw [trim, List.dropWhile_append_of_pos fun c hc => isBlank_of_isIndent (hindent c (hindent'.subset hc))]
    exact htrim

end Listing

end Stencil
