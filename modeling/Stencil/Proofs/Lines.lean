import Stencil.Listing
import Stencil.Script.Lexer

/-!
# Lines of texts

What stands between the line feeds of a text, and which of the texts that a listing is made of can stand
on one line: the lines of a code, its quoted form, and numbers. A text that is put together from such
lines falls into them again, also for a reader that takes a carriage return for the end of a line.
-/

namespace Stencil

namespace Text

variable {c sep : Char} {s t l : List Char} {ls : List (List Char)}

/-- A text that stands on one line. -/
def Unbroken (s : List Char) : Prop := '\n' ∉ s ∧ '\r' ∉ s

theorem unbroken_nil : Unbroken [] := ⟨List.not_mem_nil, List.not_mem_nil⟩

theorem unbroken_append : Unbroken (s ++ t) ↔ Unbroken s ∧ Unbroken t := by
  simp only [Unbroken, List.mem_append, not_or]
  exact and_and_and_comm

theorem unbroken_cons : Unbroken (c :: s) ↔ (c ≠ '\n' ∧ c ≠ '\r') ∧ Unbroken s := by
  simp only [Unbroken, List.mem_cons, not_or, ne_eq, eq_comm (b := c)]
  exact and_and_and_comm

theorem Unbroken.of_subset (h : Unbroken t) (hs : s ⊆ t) : Unbroken s :=
  ⟨fun hc => h.1 (hs hc), fun hc => h.2 (hs hc)⟩

/-! ## Cutting at a character -/

theorem cutAt_ne_nil (sep : Char) (s : List Char) : cutAt sep s ≠ [] := by
  cases s with
  | nil => simp [cutAt]
  | cons c s =>
    rw [cutAt]
    split
    · simp
    · split <;> simp

theorem cutAt_self (sep : Char) (s : List Char) : cutAt sep (sep :: s) = [] :: cutAt sep s :=
  if_pos (beq_self_eq_true sep)

/-- A character that separates nothing goes to the first piece of what follows. -/
theorem exists_cutAt_cons (h : c ≠ sep) (s : List Char) :
    ∃ l ls, cutAt sep s = l :: ls ∧ cutAt sep (c :: s) = (c :: l) :: ls := by
  obtain ⟨l, ls, hs⟩ := List.exists_cons_of_ne_nil (cutAt_ne_nil sep s)
  refine ⟨l, ls, hs, (if_neg (by simpa using h)).trans ?_⟩
  rw [hs]

theorem cutAt_of_not_mem (h : sep ∉ s) : cutAt sep s = [s] := by
  induction s with
  | nil => rfl
  | cons c s ih =>
    rw [List.mem_cons, not_or] at h
    obtain ⟨l, ls, hs, hc⟩ := exists_cutAt_cons (Ne.symm h.1) s
    obtain ⟨rfl, rfl⟩ := List.cons.inj (hs.symm.trans (ih h.2))
    exact hc

theorem cutAt_append_cons (h : sep ∉ s) : cutAt sep (s ++ sep :: t) = s :: cutAt sep t := by
  induction s with
  | nil => exact cutAt_self sep t
  | cons c s ih =>
    rw [List.mem_cons, not_or] at h
    obtain ⟨l, ls, hs, hc⟩ := exists_cutAt_cons (Ne.symm h.1) (s ++ sep :: t)
    obtain ⟨rfl, rfl⟩ := List.cons.inj (hs.symm.trans (ih h.2))
    exact hc

theorem joinWith_cons_cons (sep : List Char) (l m : List Char) (ls : List (List Char)) :
    joinWith sep (l :: m :: ls) = l ++ (sep ++ joinWith sep (m :: ls)) :=
  List.append_assoc _ _ _

theorem joinWith_eq_intercalate (sep : List Char) (ls : List (List Char)) :
    joinWith sep ls = sep.intercalate ls := by
  induction ls with
  | nil => rfl
  | cons l ls ih =>
    cases ls with
    | nil => rw [List.intercalate_singleton]; rfl
    | cons m ls => rw [joinWith_cons_cons, ih, List.intercalate_cons_cons, List.append_assoc]

/-- Pieces that hold no separator are cut again into themselves. -/
theorem cutAt_joinWith (hne : ls ≠ []) (h : ∀ l ∈ ls, sep ∉ l) :
    cutAt sep (joinWith [sep] ls) = ls := by
  induction ls with
  | nil => exact absurd rfl hne
  | cons l ls ih =>
    rw [List.forall_mem_cons] at h
    cases ls with
    | nil => exact cutAt_of_not_mem h.1
    | cons m ls =>
      rw [joinWith_cons_cons, List.singleton_append, cutAt_append_cons h.1, ih (by simp) h.2]

theorem joinWith_append_singleton {p : List Char} (hne : ls ≠ []) :
    joinWith [sep] ls ++ sep :: p = joinWith [sep] (ls ++ [p]) := by
  induction ls with
  | nil => exact absurd rfl hne
  | cons l ls ih =>
    cases ls with
    | nil => simp [joinWith]
    | cons m ls =>
      rw [joinWith_cons_cons, List.append_assoc, List.append_assoc, ih (by simp)]
      exact (joinWith_cons_cons [sep] l m (ls ++ [p])).symm

theorem not_mem_of_mem_cutAt (h : l ∈ cutAt sep s) : sep ∉ l := by
  induction s generalizing l with
  | nil => exact List.mem_singleton.1 h ▸ List.not_mem_nil
  | cons c s ih =>
    by_cases hsep : c = sep
    · rw [hsep, cutAt_self] at h
      rcases List.mem_cons.1 h with rfl | h
      · exact List.not_mem_nil
      · exact ih h
    · obtain ⟨p, ps, hs, hc⟩ := exists_cutAt_cons hsep s
      rw [hc] at h
      rw [hs] at ih
      rcases List.mem_cons.1 h with rfl | h
      · exact List.not_mem_cons_of_ne_of_not_mem (Ne.symm hsep) (ih List.mem_cons_self)
      · exact ih (List.mem_cons_of_mem p h)

theorem subset_of_mem_cutAt (h : l ∈ cutAt sep s) : l ⊆ s := by
  induction s generalizing l with
  | nil => exact List.mem_singleton.1 h ▸ List.Subset.refl []
  | cons c s ih =>
    by_cases hsep : c = sep
    · rw [hsep, cutAt_self] at h
      rcases List.mem_cons.1 h with rfl | h
      · exact List.nil_subset _
      · exact List.subset_cons_of_subset c (ih h)
    · obtain ⟨p, ps, hs, hc⟩ := exists_cutAt_cons hsep s
      rw [hc] at h
      rw [hs] at ih
      rcases List.mem_cons.1 h with rfl | h
      · exact List.cons_subset_cons c (ih List.mem_cons_self)
      · exact List.subset_cons_of_subset c (ih (List.mem_cons_of_mem p h))

theorem mem_of_mem_joinWith {sep : List Char} (h : c ∈ joinWith sep ls) :
    c ∈ sep ∨ ∃ l ∈ ls, c ∈ l := by
  induction ls with
  | nil => simp [joinWith] at h
  | cons l ls ih =>
    cases ls with
    | nil => exact .inr ⟨l, List.mem_cons_self, h⟩
    | cons m ls =>
      rw [joinWith_cons_cons, List.mem_append, List.mem_append] at h
      rcases h with h | h | h
      · exact .inr ⟨l, List.mem_cons_self, h⟩
      · exact .inl h
      · refine (ih h).imp_right ?_
        rintro ⟨k, hk, hc⟩
        exact ⟨k, List.mem_cons_of_mem _ hk, hc⟩

/-! ## Trimming and margins -/

theorem trimEnd_subset (p : Char → Bool) (s : List Char) : trimEnd p s ⊆ s := by
  intro c hc
  rw [trimEnd, List.mem_reverse] at hc
  exact List.mem_reverse.1 ((List.dropWhile_suffix p).subset hc)

theorem trim_subset (p : Char → Bool) (s : List Char) : trim p s ⊆ s :=
  List.Subset.trans (trimEnd_subset p _) (List.dropWhile_suffix p).subset

theorem subset_of_mem_dedent (h : l ∈ dedent ls) : ∃ m ∈ ls, l ⊆ m := by
  obtain ⟨m, hm, rfl⟩ := List.mem_map.1 h
  refine ⟨m, hm, ?_⟩
  split
  · simp
  · exact (List.drop_suffix _ _).subset

/-! ## Texts on one line -/

theorem hexDigit_ne (n : Nat) :
    Quoted.hexDigit (n % 16) ≠ '\n' ∧ Quoted.hexDigit (n % 16) ≠ '\r' := by
  have h : ∀ k : Fin 16, Quoted.hexDigit k ≠ '\n' ∧ Quoted.hexDigit k ≠ '\r' := by decide
  exact h ⟨n % 16, Nat.mod_lt _ (by decide)⟩

theorem unbroken_hex (n width : Nat) : Unbroken (Quoted.hex n width) := by
  induction width generalizing n with
  | zero => exact unbroken_nil
  | succ width ih =>
    exact unbroken_append.2 ⟨ih _, unbroken_cons.2 ⟨hexDigit_ne n, unbroken_nil⟩⟩

theorem unbroken_escape (quote c : Char) (hq : quote ≠ '\n' ∧ quote ≠ '\r') :
    Unbroken (Quoted.escape quote c) := by
  have hnumbered : Unbroken (Quoted.numbered c) := by
    unfold Quoted.numbered
    dsimp only
    split
    · simpa [unbroken_cons] using unbroken_hex _ _
    · split <;> simpa [unbroken_cons] using unbroken_hex _ _
  unfold Quoted.escape
  split
  · rename_i hc
    simp only [Bool.or_eq_true, beq_iff_eq] at hc
    rcases hc with rfl | rfl <;> simp [unbroken_cons, unbroken_nil, hq]
  · split
    · simp [unbroken_cons, unbroken_nil]
    · split
      · simp [unbroken_cons, unbroken_nil]
      · split
        · simp [unbroken_cons, unbroken_nil]
        · split
          · simp_all [unbroken_cons, unbroken_nil]
          · exact hnumbered

/-- The quoted form of a text stands on one line, whatever the text. -/
theorem unbroken_encode (s : List Char) : Unbroken (Quoted.encode s) := by
  have hq : Quoted.delimiter s ≠ '\n' ∧ Quoted.delimiter s ≠ '\r' := by
    unfold Quoted.delimiter
    split <;> decide
  unfold Quoted.encode
  refine unbroken_cons.2 ⟨hq, unbroken_append.2 ⟨?_, unbroken_cons.2 ⟨hq, unbroken_nil⟩⟩⟩
  constructor <;> rw [List.mem_flatMap] <;> rintro ⟨c, -, hc⟩
  · exact (unbroken_escape _ c hq).1 hc
  · exact (unbroken_escape _ c hq).2 hc

theorem isDigit_of_mem_natText {n : Nat} {c : Char} (h : c ∈ (natText n).toList) : c.isDigit = true := by
  rw [natText, String.toList_ofList] at h
  exact Nat.isDigit_of_mem_toDigits (by decide) (by decide) h

theorem unbroken_natText (n : Nat) : Unbroken (natText n).toList :=
  ⟨fun h => absurd (isDigit_of_mem_natText h) (by decide),
    fun h => absurd (isDigit_of_mem_natText h) (by decide)⟩

end Text

namespace Script.Lexer

/-- Without a carriage return there is nothing to normalize. -/
theorem normalize_of_not_mem {s : List Char} (h : '\r' ∉ s) : normalize s = s := by
  induction s with
  | nil => rfl
  | cons c s ih =>
    rw [List.mem_cons, not_or] at h
    rw [normalize, ih h.2]
    · intro _ hc
      exact absurd hc.symm h.1
    · intro hc
      exact h.1 hc.symm

/-- Line breaks up to a place are read apart from those after it, unless they make one together. -/
theorem normalize_append {s t : List Char} (h : s.getLast? ≠ some '\r') :
    normalize (s ++ t) = normalize s ++ normalize t := by
  induction s using normalize.induct with
  | case1 => rfl
  | case2 s ih =>
    have hs : s.getLast? ≠ some '\r' := by
      cases s with
      | nil => simp
      | cons d s => simpa using h
    simp only [List.cons_append, normalize, ih hs]
  | case3 s hn ih =>
    cases s with
    | nil => simp at h
    | cons d s =>
      have hd : d ≠ '\n' := fun hd => hn s (by rw [hd])
      have hrest : normalize (d :: s ++ t) = normalize (d :: s) ++ normalize t :=
        ih (by simpa using h)
      rw [List.cons_append, normalize, hrest, normalize]
      · rfl
      all_goals simp [hd]
  | case4 c s h₁ h₂ ih =>
    have hs : s.getLast? ≠ some '\r' := by
      cases s with
      | nil => simp
      | cons d s => simpa using h
    rw [List.cons_append, normalize, ih hs, normalize]
    · rfl
    all_goals simp_all

/-- What begins with another character than a line feed is read apart from what stands before it. -/
theorem normalize_append_of_head? {s t : List Char} (h : t.head? ≠ some '\n') :
    normalize (s ++ t) = normalize s ++ normalize t := by
  induction s using normalize.induct with
  | case1 => rfl
  | case2 s ih => simp only [List.cons_append, normalize, ih]
  | case3 s hn ih =>
    have hst (r : List Char) (hr : s ++ t = '\n' :: r) : False := by
      cases s with
      | nil => exact h (by rw [List.nil_append] at hr; rw [hr]; rfl)
      | cons c s => exact hn s (by rw [(List.cons.inj hr).1])
    rw [List.cons_append, normalize, ih, normalize]
    · rfl
    · exact hn
    · exact hst
  | case4 c s h₁ h₂ ih =>
    rw [List.cons_append, normalize, ih, normalize]
    · rfl
    all_goals simp_all

/-- A line feed after a text is a line break of its own, or belongs to a carriage return. -/
theorem normalize_append_newline (s : List Char) :
    normalize (s ++ ['\n']) = normalize s ++ ['\n'] ∨
      ∃ t, normalize (s ++ ['\n']) = t ++ ['\n'] ∧ normalize s = t ++ ['\n'] := by
  by_cases h : s.getLast? = some '\r'
  case neg => exact .inl (normalize_append h)
  obtain ⟨t, rfl⟩ := List.getLast?_eq_some_iff.1 h
  refine .inr ⟨normalize t, ?_, normalize_append_of_head? (by simp)⟩
  rw [List.append_assoc]
  exact normalize_append_of_head? (by simp)

end Script.Lexer

namespace Listing

open Text

variable {code : String} {l : List Char}

theorem unbroken_of_mem_expressionLines (h : '\r' ∉ code.toList) (hl : l ∈ expressionLines code) :
    Unbroken l :=
  ⟨not_mem_of_mem_cutAt hl, fun hc => h (trim_subset _ _ (subset_of_mem_cutAt hl hc))⟩

theorem unbroken_of_mem_statementLines (h : '\r' ∉ code.toList) (hl : l ∈ statementLines code) :
    Unbroken l := by
  refine ⟨not_mem_of_mem_cutAt hl, fun hc => ?_⟩
  rcases mem_of_mem_joinWith (trimEnd_subset _ _ (subset_of_mem_cutAt hl hc)) with hc | ⟨m, hm, hc⟩
  · simp at hc
  · obtain ⟨k, hk, hsubset⟩ := subset_of_mem_dedent hm
    exact (unbroken_of_mem_expressionLines h hk).2 (hsubset hc)

end Listing

end Stencil
