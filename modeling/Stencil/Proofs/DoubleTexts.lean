import Mathlib.Data.List.TakeWhile
import Stencil.Proofs.RoundingIntervals

/-!
# The texts of doubles

The text of a double shows the digits of its shortest decimal and where the point stands among them. Both
can be read back from either notation, so that doubles which are written alike are equal, unless they are
no numbers. A double is written like no integer, since its text has a point, an exponent or a letter.
-/

namespace Stencil.Number

variable {s ds : List Char} {c : Char} {n k : ℕ} {p : ℤ} {b : Binary} {d : Decimal} {x y : Float}

/-! ## Digits and zeros at their ends -/

/-- Digits that begin and end with another one than zero. -/
structure IsSignificand (ds : List Char) : Prop where
  digits : ∀ c ∈ ds, c.isDigit = true
  ne_nil : ds ≠ []
  head : ds.head? ≠ some '0'
  last : ds.getLast? ≠ some '0'

theorem trimZeros_append_zeros (h : ds.getLast? ≠ some '0') (k : ℕ) :
    trimZeros (ds ++ List.replicate k '0') = ds := by
  unfold trimZeros Text.trimEnd
  rw [List.reverse_append, List.reverse_replicate,
    List.dropWhile_append_of_pos fun c hc => by simp [List.eq_of_mem_replicate hc]]
  rw [← List.head?_reverse] at h
  cases hrev : ds.reverse with
  | nil => simpa using hrev.symm
  | cons c rest =>
    rw [hrev] at h
    rw [List.dropWhile_cons_of_neg (by simpa using h), ← hrev, List.reverse_reverse]

theorem trimZeros_eq_self (h : ds.getLast? ≠ some '0') : trimZeros ds = ds := by
  simpa using trimZeros_append_zeros h 0

theorem exists_eq_trimZeros_append (s : List Char) :
    ∃ k, s = trimZeros s ++ List.replicate k '0' := by
  have hzeros : s.reverse.takeWhile (· == '0') =
      List.replicate (s.reverse.takeWhile (· == '0')).length '0' :=
    List.eq_replicate_of_mem fun c hc => by simpa using List.mem_takeWhile_imp hc
  refine ⟨(s.reverse.takeWhile (· == '0')).length, ?_⟩
  calc s = (s.reverse.takeWhile (· == '0') ++ s.reverse.dropWhile (· == '0')).reverse := by
        rw [List.takeWhile_append_dropWhile, List.reverse_reverse]
    _ = trimZeros s ++ (s.reverse.takeWhile (· == '0')).reverse := List.reverse_append
    _ = trimZeros s ++ List.replicate (s.reverse.takeWhile (· == '0')).length '0' := by
        rw [hzeros, List.reverse_replicate, List.length_replicate]

theorem getLast?_trimZeros (s : List Char) : (trimZeros s).getLast? ≠ some '0' := by
  unfold trimZeros Text.trimEnd
  rw [List.getLast?_reverse]
  intro h
  have hnot := List.head?_dropWhile_not (p := (· == '0')) (l := s.reverse)
  rw [h] at hnot
  simp at hnot

theorem dropWhile_zeros_append (h : ds.head? ≠ some '0') (k : ℕ) :
    (List.replicate k '0' ++ ds).dropWhile (· == '0') = ds := by
  rw [List.dropWhile_append_of_pos fun c hc => by simp [List.eq_of_mem_replicate hc]]
  cases ds with
  | nil => rfl
  | cons c rest => exact List.dropWhile_cons_of_neg (by simpa using h)

theorem head?_toDigits_ne_zero (h : 0 < n) : (Nat.toDigits 10 n).head? ≠ some '0' := by
  induction n using Nat.strongRecOn with
  | ind n ih =>
    rw [Nat.toDigits_eq_if (by decide)]
    split
    · intro hzero
      have hvalue := congrArg (Option.map Char.toNat) hzero
      simp only [List.head?_cons, Option.map_some, Nat.toNat_digitChar_of_lt_ten ‹n < 10›] at hvalue
      simp at hvalue
      omega
    · -- The last digit stands behind those of `n / 10`, which is not zero.
      rw [List.head?_append_of_ne_nil _ Nat.toDigits_ne_nil]
      exact ih (n / 10) (by omega) (by omega)

/-- The digits of a positive number without the zeros at their end. -/
theorem isSignificand_trimZeros (h : 0 < n) : IsSignificand (trimZeros (Nat.toDigits 10 n)) := by
  obtain ⟨k, hk⟩ := exists_eq_trimZeros_append (Nat.toDigits 10 n)
  have hhead := head?_toDigits_ne_zero h
  have hne : trimZeros (Nat.toDigits 10 n) ≠ [] := by
    intro hnil
    rw [hnil, List.nil_append] at hk
    rw [hk] at hhead
    cases k with
    | zero => exact Nat.toDigits_ne_nil (hk.trans rfl)
    | succ k => exact hhead rfl
  refine ⟨fun c hc => ?_, hne, ?_, getLast?_trimZeros _⟩
  · have hmem : c ∈ Nat.toDigits 10 n := by
      rw [hk]
      exact List.mem_append_left _ hc
    exact Nat.isDigit_of_mem_toDigits (by decide) (by decide) hmem
  · rw [hk, List.head?_append_of_ne_nil _ hne] at hhead
    exact hhead

/-! ## Reading a layout back -/

/-- The integer that a sign and digits write. -/
def readExponent : List Char → ℤ
  | [] => 0
  | sign :: ds => if sign = '-' then -(Nat.ofDigitChars 10 ds 0 : ℤ) else Nat.ofDigitChars 10 ds 0

/-- The digits of a text and how many of them its point stands behind. -/
def readLayout (s : List Char) : List Char × ℤ :=
  let whole := s.takeWhile Char.isDigit
  let fraction := ((s.dropWhile Char.isDigit).drop 1).takeWhile Char.isDigit
  let exponent := readExponent ((s.dropWhile (· != 'e')).drop 1)
  let kept := (whole ++ fraction).dropWhile (· == '0')
  (trimZeros kept, whole.length + exponent - ((whole ++ fraction).length - kept.length : ℕ))

/-- What follows the digits of a text: a point with more digits, an exponent, or both. -/
inductive Follows : (fraction : List Char) → (exponent : ℤ) → List Char → Prop
  | point {ds : List Char} : (∀ c ∈ ds, c.isDigit = true) → Follows ds 0 ('.' :: ds)
  | exponent (e : ℤ) : Follows [] e (exponentText e)
  | both {ds : List Char} (e : ℤ) : (∀ c ∈ ds, c.isDigit = true) →
      Follows ds e ('.' :: ds ++ exponentText e)

theorem readExponent_exponentText (e : ℤ) : readExponent ((exponentText e).drop 1) = e := by
  have hpadded : Nat.ofDigitChars 10 (if (Nat.toDigits 10 e.natAbs).length < 2 then
      '0' :: Nat.toDigits 10 e.natAbs else Nat.toDigits 10 e.natAbs) 0 = e.natAbs := by
    split
    · rw [Nat.ofDigitChars_cons]
      exact Nat.ofDigitChars_ten_toDigits
    · exact Nat.ofDigitChars_ten_toDigits
  unfold exponentText
  dsimp only
  rw [List.drop_succ_cons, List.drop_zero, readExponent, hpadded]
  split
  · rw [if_pos rfl]
    omega
  · rw [if_neg (by decide)]
    omega

theorem takeWhile_isDigit_exponentText (e : ℤ) : (exponentText e).takeWhile Char.isDigit = [] :=
  List.takeWhile_cons_of_neg (by decide)

theorem dropWhile_exponentText (e : ℤ) : (exponentText e).dropWhile (· != 'e') = exponentText e :=
  List.dropWhile_cons_of_neg (by decide)

theorem ne_e_of_isDigit (h : ∀ c ∈ ds, c.isDigit = true) : ∀ c ∈ ds, (c != 'e') = true := by
  intro c hc
  rw [bne_iff_ne]
  rintro rfl
  exact absurd (h _ hc) (by decide)

/-- A text of digits and what follows them is taken apart. -/
theorem readLayout_append {whole fraction rest : List Char} {e : ℤ} (h : Follows fraction e rest)
    (hwhole : ∀ c ∈ whole, c.isDigit = true) {kept : List Char}
    (hkept : (whole ++ fraction).dropWhile (· == '0') = kept) :
    readLayout (whole ++ rest) =
      (trimZeros kept, whole.length + e - ((whole ++ fraction).length - kept.length : ℕ)) := by
  have hnone : rest.takeWhile Char.isDigit = [] := by
    cases h <;> exact List.takeWhile_cons_of_neg (by decide)
  have hrest : rest.dropWhile Char.isDigit = rest := by
    cases h <;> exact List.dropWhile_cons_of_neg (by decide)
  have hfraction : (rest.drop 1).takeWhile Char.isDigit = fraction := by
    cases h with
    | point hds => exact List.takeWhile_eq_self_iff.2 hds
    | exponent e =>
      unfold exponentText
      dsimp only
      rw [List.drop_succ_cons, List.drop_zero]
      split <;> exact List.takeWhile_cons_of_neg (by decide)
    | both e hds =>
      rw [List.cons_append, List.drop_succ_cons, List.drop_zero, List.takeWhile_append_of_pos hds,
        takeWhile_isDigit_exponentText, List.append_nil]
  have hexponent : readExponent ((rest.dropWhile (· != 'e')).drop 1) = e := by
    cases h with
    | point hds =>
      rw [List.dropWhile_cons_of_pos (by decide), List.dropWhile_eq_nil_iff.2 (ne_e_of_isDigit hds)]
      rfl
    | exponent e => rw [dropWhile_exponentText, readExponent_exponentText]
    | both e hds =>
      rw [List.cons_append, List.dropWhile_cons_of_pos (by decide),
        List.dropWhile_append_of_pos (ne_e_of_isDigit hds), dropWhile_exponentText,
        readExponent_exponentText]
  unfold readLayout
  dsimp only
  rw [List.takeWhile_append_of_pos hwhole, hnone, List.append_nil,
    List.dropWhile_append_of_pos hwhole, hrest, hfraction,
    List.dropWhile_append_of_pos (ne_e_of_isDigit hwhole), hexponent, hkept]

theorem IsSignificand.dropWhile_append (h : IsSignificand ds) (s : List Char) :
    (ds ++ s).dropWhile (· == '0') = ds ++ s := by
  have hne := h.ne_nil
  have hhead := h.head
  cases ds with
  | nil => exact absurd rfl hne
  | cons c rest => exact List.dropWhile_cons_of_neg (by simpa using hhead)

theorem isDigit_of_mem_zeros (h : c ∈ List.replicate k '0') : c.isDigit = true :=
  List.eq_of_mem_replicate h ▸ rfl

theorem readLayout_of_zeros_before (h : IsSignificand ds) (k : ℕ) :
    readLayout ('0' :: '.' :: (List.replicate k '0' ++ ds)) = (ds, -(k : ℤ)) := by
  have hfraction : ∀ c ∈ List.replicate k '0' ++ ds, c.isDigit = true := fun c hc =>
    (List.mem_append.1 hc).elim isDigit_of_mem_zeros (h.digits c)
  have hwhole : ∀ c ∈ ['0'], c.isDigit = true := List.forall_mem_singleton.2 rfl
  have hkept : (['0'] ++ (List.replicate k '0' ++ ds)).dropWhile (· == '0') = ds :=
    dropWhile_zeros_append h.head (k + 1)
  refine (readLayout_append (.point hfraction) hwhole hkept).trans ?_
  rw [trimZeros_eq_self h.last]
  refine Prod.ext rfl ?_
  simp only [List.length_append, List.length_replicate, List.length_singleton]
  omega

theorem readLayout_of_zeros_behind (h : IsSignificand ds) (k : ℕ) :
    readLayout (ds ++ List.replicate k '0' ++ ['.', '0']) = (ds, (ds.length + k : ℤ)) := by
  have hwhole : ∀ c ∈ ds ++ List.replicate k '0', c.isDigit = true := fun c hc =>
    (List.mem_append.1 hc).elim (h.digits c) isDigit_of_mem_zeros
  have hfraction : ∀ c ∈ ['0'], c.isDigit = true := List.forall_mem_singleton.2 rfl
  have hkept : (ds ++ List.replicate k '0' ++ ['0']).dropWhile (· == '0') =
      ds ++ List.replicate (k + 1) '0' := by
    rw [List.append_assoc, ← List.replicate_succ']
    exact h.dropWhile_append _
  refine (readLayout_append (.point hfraction) hwhole hkept).trans ?_
  rw [trimZeros_append_zeros h.last]
  refine Prod.ext rfl ?_
  simp only [List.length_append, List.length_replicate, List.length_singleton]
  omega

theorem readLayout_of_point_inside (h : IsSignificand ds) (hn : n ≤ ds.length) :
    readLayout (ds.take n ++ '.' :: ds.drop n) = (ds, (n : ℤ)) := by
  have hkept : (ds.take n ++ ds.drop n).dropWhile (· == '0') = ds := by
    rw [List.take_append_drop]
    simpa using h.dropWhile_append []
  refine (readLayout_append (.point fun c hc => h.digits c (List.mem_of_mem_drop hc))
    (fun c hc => h.digits c (List.mem_of_mem_take hc)) hkept).trans ?_
  rw [trimZeros_eq_self h.last, List.take_append_drop, List.length_take, min_eq_left hn]
  refine Prod.ext rfl ?_
  dsimp only
  omega

theorem readLayout_scientific {rest behind : List Char} {e : ℤ} (h : IsSignificand (c :: rest))
    (hbehind : Follows rest e behind) : readLayout (c :: behind) = (c :: rest, e + 1) := by
  have hwhole : ∀ c' ∈ [c], c'.isDigit = true := by simpa using h.digits c List.mem_cons_self
  have hkept : ([c] ++ rest).dropWhile (· == '0') = c :: rest := by simpa using h.dropWhile_append []
  refine (readLayout_append hbehind hwhole hkept).trans ?_
  rw [trimZeros_eq_self h.last]
  refine Prod.ext rfl ?_
  simp only [List.singleton_append, List.length_cons, List.length_nil]
  omega

/-- The digits of a text and the place of its point can be read back. -/
theorem readLayout_layout (h : IsSignificand ds) (p : ℤ) : readLayout (layout ds p) = (ds, p) := by
  unfold layout
  dsimp only
  split
  · split
    · rw [readLayout_of_zeros_before h]
      refine Prod.ext rfl ?_
      dsimp only
      omega
    · by_cases hend : ds.length ≤ p.toNat
      · rw [List.drop_eq_nil_of_le hend, List.take_of_length_le hend, List.isEmpty_nil, if_pos rfl,
          readLayout_of_zeros_behind h]
        refine Prod.ext rfl ?_
        dsimp only
        omega
      · have hfraction : (ds.drop p.toNat).isEmpty = false := by
          simp only [List.isEmpty_eq_false_iff, ne_eq, List.drop_eq_nil_iff]
          omega
        have hzeros : p.toNat - (ds.take p.toNat).length = 0 := by
          rw [List.length_take]
          omega
        rw [hzeros, List.replicate_zero, List.append_nil, hfraction, if_neg (by decide),
          readLayout_of_point_inside (n := p.toNat) h (by omega)]
        refine Prod.ext rfl ?_
        dsimp only
        omega
  · obtain ⟨c, rest, rfl⟩ := List.exists_cons_of_ne_nil h.ne_nil
    have hread {behind : List Char} (hbehind : Follows rest (p - 1) behind) :
        readLayout (c :: behind) = (c :: rest, p) := by
      rw [readLayout_scientific h hbehind, sub_add_cancel]
    cases rest with
    | nil => exact hread (.exponent _)
    | cons c' rest => exact hread (.both _ fun c'' hc => h.digits c'' (List.mem_cons_of_mem _ hc))

/-! ## Doubles that are written alike -/

/-- The number that a decimal stands for, from its digits and the place of its point. -/
theorem Decimal.value_eq_of_digits (d : Decimal) :
    d.value = Nat.ofDigitChars 10 (trimZeros (Nat.toDigits 10 d.digits)) 0 *
      10 ^ ((Nat.toDigits 10 d.digits).length + d.exponent -
        (trimZeros (Nat.toDigits 10 d.digits)).length) := by
  obtain ⟨k, hk⟩ := exists_eq_trimZeros_append (Nat.toDigits 10 d.digits)
  have hlength := congrArg List.length hk
  have hdigits : d.digits = 10 ^ k * Nat.ofDigitChars 10 (trimZeros (Nat.toDigits 10 d.digits)) 0 := by
    conv_lhs => rw [← Nat.ofDigitChars_ten_toDigits (n := d.digits), hk, Nat.ofDigitChars_append,
      Nat.ofDigitChars_replicate_zero]
  rw [List.length_append, List.length_replicate] at hlength
  generalize trimZeros (Nat.toDigits 10 d.digits) = ds at hdigits hlength ⊢
  generalize Nat.ofDigitChars 10 ds 0 = v at hdigits ⊢
  rw [hlength, value, hdigits, show ((ds.length + k : ℕ) : ℤ) + d.exponent - ds.length = k + d.exponent by
    push_cast; ring, zpow_add₀ (by norm_num), zpow_natCast]
  push_cast
  ring

/-- What a finite magnitude other than zero is written as. -/
def Binary.text (b : Binary) : List Char :=
  let all := Nat.toDigits 10 b.interval.shortest.digits
  layout (trimZeros all) (all.length + b.interval.shortest.exponent)

theorem Binary.Proper.digits_pos (hb : b.Proper) (hm : 0 < b.m) : 0 < b.interval.shortest.digits := by
  rw [Nat.pos_iff_ne_zero]
  intro hzero
  have hlower := (Interval.between b.denominator_pos (hb.contains_shortest hm)).1
  have hpos : 0 < b.interval.lower := by
    rw [b.lower_eq]
    refine mul_pos ?_ (twoPow_pos _)
    have hreach : b.reach ≤ 2 := by
      unfold reach
      split <;> omega
    exact_mod_cast (by omega : 0 < 4 * b.m - b.reach)
  rw [Decimal.value, hzero, Nat.cast_zero, zero_mul] at hlower
  exact absurd hpos (not_lt.2 hlower)

theorem Binary.Proper.readLayout_text (hb : b.Proper) (hm : 0 < b.m) : readLayout b.text =
    (trimZeros (Nat.toDigits 10 b.interval.shortest.digits),
      (Nat.toDigits 10 b.interval.shortest.digits).length + b.interval.shortest.exponent) :=
  readLayout_layout (isSignificand_trimZeros (hb.digits_pos hm)) _

/-- Magnitudes that are written alike are the same number. -/
theorem Binary.Proper.value_eq_of_text_eq {b' : Binary} (hb : b.Proper) (hb' : b'.Proper) (hm : 0 < b.m)
    (hm' : 0 < b'.m) (h : b.text = b'.text) : b.value = b'.value := by
  have hread := hb.readLayout_text hm
  rw [h, hb'.readLayout_text hm', Prod.mk.injEq] at hread
  -- Both intervals contain the decimal that was read, and intervals of different numbers have none in common.
  refine hb.value_eq_of_common hb' (hb.contains_shortest hm) (hb'.contains_shortest hm') ?_
  rw [Decimal.value_eq_of_digits, Decimal.value_eq_of_digits, hread.1, hread.2]

/-- What a double that is a number is written as behind its sign. -/
def body (x : Float) : List Char :=
  if x.isInf then "inf".toList else if (magnitude x).m = 0 then "0.0".toList else (magnitude x).text

theorem floatText_of_isNaN (h : x.isNaN = true) : floatText x = "nan" := if_pos h

theorem floatText_of_not_isNaN (h : x.isNaN = false) :
    floatText x = String.ofList ((if isNegative x then ['-'] else []) ++ body x) := by
  unfold floatText
  rw [h]
  rfl

/-- A double that is a number is infinite, zero or neither. -/
theorem body_cases (x : Float) :
    (x.isInf = true ∧ body x = "inf".toList) ∨
      (x.isInf = false ∧ (magnitude x).m = 0 ∧ body x = "0.0".toList) ∨
      (x.isInf = false ∧ 0 < (magnitude x).m ∧ body x = (magnitude x).text) := by
  unfold body
  cases hinf : x.isInf with
  | true => exact .inl ⟨rfl, rfl⟩
  | false =>
    by_cases hm : (magnitude x).m = 0
    · exact .inr (.inl ⟨rfl, hm, if_pos hm⟩)
    · exact .inr (.inr ⟨rfl, Nat.pos_of_ne_zero hm, if_neg hm⟩)

theorem exists_layout_eq_cons (h : IsSignificand ds) (p : ℤ) :
    ∃ c rest, layout ds p = c :: rest ∧ c.isDigit = true := by
  obtain ⟨c, rest, rfl⟩ := List.exists_cons_of_ne_nil h.ne_nil
  have hc := h.digits c List.mem_cons_self
  unfold layout
  dsimp only
  split
  · split
    · exact ⟨_, _, rfl, rfl⟩
    · obtain ⟨n, hn⟩ : ∃ n, p.toNat = n + 1 := ⟨p.toNat - 1, by omega⟩
      rw [hn]
      exact ⟨_, _, rfl, hc⟩
  · exact ⟨_, _, rfl, hc⟩

theorem Binary.Proper.isSignificand (hb : b.Proper) (hm : 0 < b.m) :
    IsSignificand (trimZeros (Nat.toDigits 10 b.interval.shortest.digits)) :=
  isSignificand_trimZeros (hb.digits_pos hm)

theorem exists_body_eq_cons (x : Float) :
    ∃ c rest, body x = c :: rest ∧ (c.isDigit = true ∨ c = 'i') := by
  obtain ⟨-, hbody⟩ | ⟨-, -, hbody⟩ | ⟨-, hm, hbody⟩ := body_cases x
  · exact ⟨_, _, hbody, .inr rfl⟩
  · exact ⟨_, _, hbody, .inl rfl⟩
  · obtain ⟨c, rest, htext, hc⟩ := exists_layout_eq_cons ((proper_magnitude x).isSignificand hm) _
    exact ⟨c, rest, hbody.trans htext, .inl hc⟩

/-- The sign of a double and what stands behind it are told apart. -/
theorem sign_and_body_eq (hx : x.isNaN = false) (hy : y.isNaN = false)
    (h : floatText x = floatText y) : sign x = sign y ∧ body x = body y := by
  -- What stands behind the sign begins with a digit or with the word for infinity.
  have hhead (x y : Float) : '-' :: body x ≠ body y := by
    obtain ⟨c, rest, hbody, hc⟩ := exists_body_eq_cons y
    rw [hbody]
    rintro ⟨⟩
    rcases hc with hc | hc <;> cases hc
  rw [floatText_of_not_isNaN hx, floatText_of_not_isNaN hy, String.ofList_inj] at h
  unfold sign
  cases hsx : isNegative x <;> cases hsy : isNegative y <;> rw [hsx, hsy] at h
  · exact ⟨rfl, h⟩
  · exact absurd h.symm (hhead y x)
  · exact absurd h (hhead x y)
  · exact ⟨rfl, (List.cons.inj h).2⟩

theorem floatText_ne_nan (h : x.isNaN = false) : floatText x ≠ "nan" := by
  obtain ⟨c, rest, hbody, hc⟩ := exists_body_eq_cons x
  intro heq
  have hlist := congrArg String.toList heq
  rw [floatText_of_not_isNaN h, String.toList_ofList, hbody] at hlist
  cases hsign : isNegative x <;> rw [hsign] at hlist
  · have hn := (List.cons.inj hlist).1
    subst hn
    rcases hc with hc | hc <;> cases hc
  · cases (List.cons.inj hlist).1

theorem isNaN_eq_of_floatText_eq (h : floatText x = floatText y) : x.isNaN = y.isNaN := by
  cases hx : x.isNaN <;> cases hy : y.isNaN
  · rfl
  · exact absurd (h.trans (floatText_of_isNaN hy)) (floatText_ne_nan hx)
  · exact absurd (h.symm.trans (floatText_of_isNaN hx)) (floatText_ne_nan hy)
  · rfl

theorem value_eq_signed (x : Float) :
    value x = (sign x).apply 1 * (magnitude x).value := by
  rw [value, Binary.value, ← mul_assoc]
  cases sign x <;> simp [Float.Model.UnpackedFloat.Sign.apply]

theorem Binary.Proper.text_ne (hb : b.Proper) (hm : 0 < b.m) (h : (readLayout s).1 = []) :
    b.text ≠ s := by
  rintro rfl
  rw [hb.readLayout_text hm] at h
  exact (hb.isSignificand hm).ne_nil h

/-- Doubles with the same digits behind their signs are both infinite, or of the same magnitude. -/
theorem magnitude_eq_of_body_eq (h : body x = body y) : (x.isInf = true ∧ y.isInf = true) ∨
    (x.isInf = false ∧ y.isInf = false ∧ (magnitude x).value = (magnitude y).value) := by
  have hx := proper_magnitude x
  have hy := proper_magnitude y
  obtain ⟨hix, hbx⟩ | ⟨hix, hmx, hbx⟩ | ⟨hix, hmx, hbx⟩ := body_cases x <;>
    obtain ⟨hiy, hby⟩ | ⟨hiy, hmy, hby⟩ | ⟨hiy, hmy, hby⟩ := body_cases y <;>
    rw [hbx, hby] at h
  · exact .inl ⟨hix, hiy⟩
  · cases h
  · exact absurd h.symm (hy.text_ne hmy rfl)
  · cases h
  · exact .inr ⟨hix, hiy, by simp [Binary.value, hmx, hmy]⟩
  · exact absurd h.symm (hy.text_ne hmy rfl)
  · exact absurd h (hx.text_ne hmx rfl)
  · exact absurd h (hx.text_ne hmx rfl)
  · exact .inr ⟨hix, hiy, hx.value_eq_of_text_eq hy hmx hmy h⟩

theorem extended?_eq_none_iff (x : Float) : extended? x = none ↔ x.isNaN = true := by
  unfold extended?
  cases x.isNaN <;> cases x.isInf <;> simp

theorem extended?_eq_of_floatText_eq (hx : x.isNaN = false) (h : floatText x = floatText y) :
    extended? x = extended? y ∧ sign x = sign y := by
  have hy : y.isNaN = false := by rw [← isNaN_eq_of_floatText_eq h, hx]
  obtain ⟨hsign, hbody⟩ := sign_and_body_eq hx hy h
  refine ⟨?_, hsign⟩
  unfold extended?
  rw [hx, hy]
  obtain ⟨hix, hiy⟩ | ⟨hix, hiy, hvalue⟩ := magnitude_eq_of_body_eq hbody
  · rw [hix, hiy, hsign]
    simp
  · rw [hix, hiy, value_eq_signed x, value_eq_signed y, hsign, hvalue]

theorem isNegative_eq_of_sign_eq (h : sign x = sign y) : isNegative x = isNegative y := by
  unfold sign at h
  cases hx : isNegative x <;> cases hy : isNegative y <;> rw [hx, hy] at h <;>
    first | rfl | cases h

theorem body_eq_of_extended?_eq (hx : x.isNaN = false) (hy : y.isNaN = false)
    (h : extended? x = extended? y) : body x = body y := by
  unfold extended? at h
  rw [hx, hy] at h
  unfold body
  cases hix : x.isInf <;> cases hiy : y.isInf <;> rw [hix, hiy] at h <;>
    simp only [Bool.false_eq_true, if_false, if_true, Option.some.injEq, Extended.finite.injEq,
      reduceCtorEq] at h ⊢
  obtain ⟨hmx, hmy⟩ | ⟨-, hm, hq⟩ := (value_eq_iff x y).1 h
  · rw [if_pos hmx, if_pos hmy]
  · have hmagnitude : magnitude x = magnitude y := by
      cases hbx : magnitude x
      cases hby : magnitude y
      rw [hbx, hby] at hm hq
      exact congrArg₂ Binary.mk hm hq
    rw [hmagnitude]

/-- Doubles that are numbers are written alike when they are equal and have the same sign. -/
theorem floatText_eq_iff (hx : x.isNaN = false) :
    floatText x = floatText y ↔ extended? x = extended? y ∧ sign x = sign y := by
  constructor
  · exact extended?_eq_of_floatText_eq hx
  · rintro ⟨h, hsign⟩
    have hy : y.isNaN = false := by
      rw [Bool.eq_false_iff, ne_eq, ← extended?_eq_none_iff, ← h, extended?_eq_none_iff, hx]
      decide
    rw [floatText_of_not_isNaN hx, floatText_of_not_isNaN hy, isNegative_eq_of_sign_eq hsign,
      body_eq_of_extended?_eq hx hy h]

/-- Equal doubles are written alike when they have the same sign; zeros need not have it. -/
theorem floatText_eq_iff_of_beq (h : (x == y) = true) : floatText x = floatText y ↔ sign x = sign y := by
  obtain ⟨v, hx, hy⟩ := (beq_iff x y).1 h
  have hnumber : x.isNaN = false := by
    rw [← Bool.not_eq_true, ← extended?_eq_none_iff, hx]
    rintro ⟨⟩
  rw [floatText_eq_iff hnumber, hx, hy, and_iff_right rfl]

/-- Doubles that are written alike are equal when they are numbers. -/
theorem beq_iff_of_floatText_eq (h : floatText x = floatText y) : (x == y) = true ↔ x.isNaN = false := by
  cases hx : x.isNaN with
  | true =>
    have hnone := (extended?_eq_none_iff x).2 hx
    rw [beq_iff, hnone]
    simp
  | false =>
    obtain ⟨heq, -⟩ := (floatText_eq_iff hx).1 h
    have hsome : extended? x ≠ none := by
      rw [ne_eq, extended?_eq_none_iff, hx]
      decide
    obtain ⟨v, hv⟩ := Option.ne_none_iff_exists'.1 hsome
    rw [beq_iff, ← heq]
    exact iff_of_true ⟨v, hv, hv⟩ rfl

/-! ## The characters of texts of doubles -/

theorem mem_exponentText {e : ℤ} (h : c ∈ exponentText e) : c.isDigit = true ∨ c ∈ ['e', '-', '+'] := by
  unfold exponentText at h
  dsimp only at h
  rcases List.mem_cons.1 h with rfl | h
  · exact .inr (by decide)
  rcases List.mem_cons.1 h with rfl | h
  · refine .inr ?_
    split <;> decide
  · refine .inl ?_
    have hdigits := Nat.isDigit_of_mem_toDigits (b := 10) (n := e.natAbs) (c := c) (by decide) (by decide)
    split at h
    · rcases List.mem_cons.1 h with rfl | h
      · rfl
      · exact hdigits h
    · exact hdigits h

theorem mem_layout (h : ∀ c ∈ ds, c.isDigit = true) (hc : c ∈ layout ds p) :
    c.isDigit = true ∨ c ∈ ['.', 'e', '-', '+'] := by
  have hzeros {k : ℕ} (hc : c ∈ List.replicate k '0') : c.isDigit = true := isDigit_of_mem_zeros hc
  unfold layout at hc
  dsimp only at hc
  split at hc
  · split at hc
    · simp only [List.mem_cons, List.mem_append] at hc
      rcases hc with rfl | rfl | hc | hc
      · exact .inl rfl
      · exact .inr (by decide)
      · exact .inl (hzeros hc)
      · exact .inl (h c hc)
    · simp only [List.mem_cons, List.mem_append] at hc
      rcases hc with (hc | hc) | rfl | hc
      · exact .inl (h c (List.mem_of_mem_take hc))
      · exact .inl (hzeros hc)
      · exact .inr (by decide)
      · split at hc
        · exact .inl (List.mem_singleton.1 hc ▸ rfl)
        · exact .inl (h c (List.mem_of_mem_drop hc))
  · simp only [List.mem_append] at hc
    rcases hc with (hc | hc) | hc
    · exact .inl (h c (List.mem_of_mem_take hc))
    · split at hc
      · cases hc
      · rcases List.mem_cons.1 hc with rfl | hc
        · exact .inr (by decide)
        · exact .inl (h c (List.mem_of_mem_drop hc))
    · refine (mem_exponentText hc).imp_right fun hmark => ?_
      exact List.mem_cons_of_mem _ hmark

theorem exists_mark_layout (ds : List Char) (p : ℤ) : ∃ c ∈ layout ds p, c = '.' ∨ c = 'e' := by
  unfold layout
  dsimp only
  split
  · split
    · exact ⟨'.', by simp, .inl rfl⟩
    · exact ⟨'.', by simp, .inl rfl⟩
  · exact ⟨'e', by simp [exponentText], .inr rfl⟩

theorem mem_body (h : c ∈ body x) : c.isDigit = true ∨ c ∈ "infe.-+".toList := by
  obtain ⟨-, hbody⟩ | ⟨-, -, hbody⟩ | ⟨-, hm, hbody⟩ := body_cases x <;> rw [hbody] at h
  · exact .inr (List.mem_append_left ['e', '.', '-', '+'] h)
  · have hzero : c ∈ ['0', '.', '0'] := h
    simp only [List.mem_cons, List.not_mem_nil, or_false] at hzero
    obtain rfl | rfl | rfl := hzero
    · exact .inl rfl
    · exact .inr (by decide)
    · exact .inl rfl
  · have hmarks : ['.', 'e', '-', '+'] ⊆ "infe.-+".toList := by decide
    exact (mem_layout ((proper_magnitude x).isSignificand hm).digits h).imp_right (hmarks ·)

/-- The text of a double consists of digits, marks and few letters. -/
theorem mem_floatText (h : c ∈ (floatText x).toList) : c.isDigit = true ∨ c ∈ "naninfe.-+".toList := by
  cases hx : x.isNaN with
  | true =>
    rw [floatText_of_isNaN hx] at h
    exact .inr (List.mem_append_left "infe.-+".toList h)
  | false =>
    have hmarks : '-' :: "infe.-+".toList ⊆ "naninfe.-+".toList := by decide
    rw [floatText_of_not_isNaN hx, String.toList_ofList, List.mem_append] at h
    rcases h with h | h
    · split at h
      · exact .inr (hmarks (List.mem_cons.2 (.inl (List.mem_singleton.1 h))))
      · cases h
    · exact (mem_body h).imp_right fun hmark => hmarks (List.mem_cons_of_mem _ hmark)

/-- The text of a double has a point, an exponent or a letter in it, so that no integer has it. -/
theorem exists_mem_floatText (x : Float) :
    ∃ c ∈ (floatText x).toList, c.isDigit = false ∧ c ≠ '-' := by
  cases hx : x.isNaN with
  | true =>
    rw [floatText_of_isNaN hx]
    exact ⟨'n', by decide, by decide⟩
  | false =>
    have hbody : ∃ c ∈ body x, c.isDigit = false ∧ c ≠ '-' := by
      obtain ⟨-, hbody⟩ | ⟨-, -, hbody⟩ | ⟨-, -, hbody⟩ := body_cases x <;> rw [hbody]
      · exact ⟨'i', by decide, by decide⟩
      · exact ⟨'.', by decide, by decide⟩
      · obtain ⟨c, hc, rfl | rfl⟩ := exists_mark_layout
          (trimZeros (Nat.toDigits 10 (magnitude x).interval.shortest.digits))
          ((Nat.toDigits 10 (magnitude x).interval.shortest.digits).length +
            (magnitude x).interval.shortest.exponent)
        · exact ⟨'.', hc, by decide⟩
        · exact ⟨'e', hc, by decide⟩
    obtain ⟨c, hc, hmark⟩ := hbody
    rw [floatText_of_not_isNaN hx, String.toList_ofList]
    exact ⟨c, List.mem_append_right _ hc, hmark⟩

end Stencil.Number
