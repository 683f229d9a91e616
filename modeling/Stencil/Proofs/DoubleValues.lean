import Mathlib.Algebra.Order.Field.Power
import Mathlib.Algebra.Order.Ring.Abs
import Mathlib.Algebra.Order.Ring.Rat
import Mathlib.Tactic.Linarith
import Mathlib.Tactic.NormNum
import Mathlib.Tactic.Ring
import Stencil.Number.Binary

/-!
# The numbers that doubles stand for

A finite double stands for one rational number. Two finite doubles are equal exactly when they stand for
the same number, and a whole number is equal to a finite double exactly when the double stands for it, so
equality of numbers of both kinds is equality of what they stand for.
-/

namespace Stencil.Number

open Float.Model (UnpackedFloat)
open Float.Model.UnpackedFloat (Sign)

/-- The sign of a double. -/
def sign (x : Float) : Sign := if isNegative x then .negative else .positive

/-- The exponent as it stands in the bits of a double; the greatest one belongs to no finite double. -/
def exponentBits (x : Float) : Nat := x.toBits.toNat / 2 ^ 52 % 2 ^ 11

/-- The fraction as it stands in the bits of a double. -/
def fractionBits (x : Float) : Nat := x.toBits.toNat % 2 ^ 52

variable {x y : Float} {i : Int}

theorem magnitude_eq (x : Float) : magnitude x =
    if exponentBits x = 0 then ⟨fractionBits x, -1074⟩
    else ⟨fractionBits x + 2 ^ 52, (exponentBits x : Int) - 1075⟩ := by
  have hexponent : x.toBits.toNat % 2 ^ 63 / 2 ^ 52 = exponentBits x := by
    unfold exponentBits
    omega
  have hfraction : x.toBits.toNat % 2 ^ 63 % 2 ^ 52 = fractionBits x := by
    unfold fractionBits
    omega
  change (if x.toBits.toNat % 2 ^ 63 / 2 ^ 52 = 0 then (⟨x.toBits.toNat % 2 ^ 63 % 2 ^ 52, -1074⟩ : Binary)
    else ⟨x.toBits.toNat % 2 ^ 63 % 2 ^ 52 + 2 ^ 52, (x.toBits.toNat % 2 ^ 63 / 2 ^ 52 : Nat) - 1075⟩) = _
  rw [hexponent, hfraction]

theorem toBits_eq (x : Float) : x.toBits = x.toModel.toBits := rfl

theorem toNat_unpackMantissa (x : Float) :
    (@UnpackedFloat.unpackMantissa .binary64 x.toModel.toBits.toBitVec).toNat =
      fractionBits x := by
  simp [UnpackedFloat.unpackMantissa, fractionBits, toBits_eq]

theorem toNat_unpackExponent (x : Float) :
    (@UnpackedFloat.unpackExponent .binary64 x.toModel.toBits.toBitVec).toNat =
      exponentBits x := by
  simp [UnpackedFloat.unpackExponent, exponentBits, toBits_eq, Nat.shiftRight_eq_div_pow]

theorem ofBitVec_unpackSign (x : Float) :
    Sign.ofBitVec (@UnpackedFloat.unpackSign .binary64 x.toModel.toBits.toBitVec) = sign x := by
  have hbit : (@UnpackedFloat.unpackSign .binary64 x.toModel.toBits.toBitVec).toNat =
      x.toBits.toNat / 2 ^ 63 := by
    have hlt := x.toModel.toBits.toNat_lt
    change (x.toModel.toBits.toBitVec.extractLsb 63 63).toNat = _
    rw [toBits_eq, BitVec.extractLsb_toNat, Nat.shiftRight_eq_div_pow]
    change x.toModel.toBits.toNat / 2 ^ 63 % 2 ^ 1 = _
    omega
  have hsign : (@UnpackedFloat.unpackSign .binary64 x.toModel.toBits.toBitVec = 0#1) ↔
      isNegative x = false := by
    rw [← BitVec.toNat_inj, hbit]
    simp [isNegative, twoTo]
  unfold Sign.ofBitVec sign
  by_cases h : isNegative x = true <;> simp [hsign, h]

/-- A finite double as its model has it. -/
def ofParts (s : Sign) (m : Nat) (q : Int) : UnpackedFloat :=
  if h : 0 < m then .finite s m q h else .zero s

theorem ofParts_zero (s : Sign) (q : Int) : ofParts s 0 q = .zero s := dif_neg (Nat.lt_irrefl 0)

theorem ofParts_pos {m : Nat} (h : 0 < m) (s : Sign) (q : Int) : ofParts s m q = .finite s m q h :=
  dif_pos h

theorem finite_eq_ofParts {s : Sign} {m m' : Nat} {q q' : Int} (h : 0 < m) (hm : m = m') (hq : q = q') :
    UnpackedFloat.finite s m q h = ofParts s m' q' := by
  subst hm hq
  exact (ofParts_pos h s q).symm

/-- A double is finite, infinite or no number. -/
theorem unpack_eq (x : Float) : x.toModel.unpack =
    if exponentBits x = 2047 then (if fractionBits x = 0 then .infinity (sign x) else .notANumber)
    else ofParts (sign x) (magnitude x).m (magnitude x).q := by
  have hexponent : @UnpackedFloat.unpackExponent .binary64 x.toModel.toBits.toBitVec = -1#_ ↔
      exponentBits x = 2047 := by
    rw [← BitVec.toNat_inj, toNat_unpackExponent]
    rfl
  have hzero : @UnpackedFloat.unpackExponent .binary64 x.toModel.toBits.toBitVec = 0#_ ↔
      exponentBits x = 0 := by
    rw [← BitVec.toNat_inj, toNat_unpackExponent]
    rfl
  have hmantissa : @UnpackedFloat.unpackMantissa .binary64 x.toModel.toBits.toBitVec = 0#_ ↔
      fractionBits x = 0 := by
    rw [← BitVec.toNat_inj, toNat_unpackMantissa]
    rfl
  have hbias : Float.Model.Format.binary64.exponentBias = 1023 := rfl
  unfold Float.Model.unpack UnpackedFloat.unpack
  dsimp only
  rw [ofBitVec_unpackSign]
  by_cases hmax : exponentBits x = 2047
  · rw [if_pos (hexponent.2 hmax), if_pos hmax]
    by_cases hf : fractionBits x = 0
    · rw [if_pos (hmantissa.2 hf), if_pos hf]
    · rw [if_neg (mt hmantissa.1 hf), if_neg hf]
  · rw [if_neg (mt hexponent.1 hmax), if_neg hmax, magnitude_eq]
    by_cases h0 : exponentBits x = 0
    · rw [if_pos (hzero.2 h0), if_pos h0]
      by_cases hf : fractionBits x = 0
      · rw [dif_pos (hmantissa.2 hf), hf]
        exact (ofParts_zero _ _).symm
      · rw [dif_neg (mt hmantissa.1 hf)]
        refine finite_eq_ofParts _ (toNat_unpackMantissa x) ?_
        rw [toNat_unpackExponent, h0, hbias]
        rfl
    · have happend : (1#1 ++ @UnpackedFloat.unpackMantissa .binary64 x.toModel.toBits.toBitVec).toNat =
          fractionBits x + 2 ^ 52 := by
        have hlt : fractionBits x < 2 ^ 52 := Nat.mod_lt _ (by decide)
        rw [BitVec.toNat_append, toNat_unpackMantissa, ← Nat.shiftLeft_add_eq_or_of_lt hlt]
        exact Nat.add_comm _ _
      rw [if_neg (mt hzero.1 h0), if_neg h0]
      refine finite_eq_ofParts _ happend ?_
      rw [toNat_unpackExponent, hbias]
      rfl

/-! ## The number of a double -/

theorem twoPow_pos (q : ℤ) : (0 : ℚ) < 2 ^ q := zpow_pos (by norm_num) q

/-- The number that a finite double stands for. -/
def value (x : Float) : ℚ := ((sign x).apply (magnitude x).m : ℤ) * 2 ^ (magnitude x).q

theorem magnitude_bounds (x : Float) : (magnitude x).m < 2 ^ 53 ∧ -1074 ≤ (magnitude x).q ∧
    ((magnitude x).m < 2 ^ 52 → (magnitude x).q = -1074) := by
  have hlt : fractionBits x < 2 ^ 52 := Nat.mod_lt _ (by decide)
  rw [magnitude_eq]
  split
  · exact ⟨by dsimp only; omega, le_rfl, fun _ => rfl⟩
  · refine ⟨by dsimp only; omega, by dsimp only; omega, fun h => ?_⟩
    dsimp only at h
    omega

/-- A whole number is equal to a finite double that stands for it. -/
theorem compareInt_eq_iff (i : Int) (x : Float) : compareInt i x = .eq ↔ (i : ℚ) = value x := by
  have hsigned : (if isNegative x then -((magnitude x).m : Int) else (magnitude x).m) =
      (sign x).apply (magnitude x).m := by
    unfold sign
    split <;> rfl
  have hcompare : compareInt i x = .eq ↔
      i * (2 ^ (-(magnitude x).q).toNat : ℕ) = (sign x).apply (magnitude x).m * (2 ^ (magnitude x).q.toNat : ℕ) := by
    rw [← hsigned]
    exact compare_eq_iff_eq
  rw [hcompare, value]
  generalize (sign x).apply (magnitude x).m = m
  obtain ⟨n, hn | hn⟩ := Int.eq_nat_or_neg (magnitude x).q
  · simp only [hn, Int.toNat_neg_natCast, Int.toNat_natCast, pow_zero, Nat.cast_one, mul_one, zpow_natCast]
    norm_cast
  · have hpos : (0 : ℚ) < 2 ^ n := by positivity
    simp only [hn, neg_neg, Int.toNat_neg_natCast, Int.toNat_natCast, pow_zero, Nat.cast_one, mul_one,
      zpow_neg, zpow_natCast]
    rw [← div_eq_mul_inv, eq_div_iff hpos.ne']
    norm_cast

/-- A magnitude with room in its last place is as small as magnitudes get, so it is not the other one
with a greater exponent. -/
theorem eq_of_scaled_eq {m m' : ℕ} {q q' : ℤ} (h : (m : ℚ) * 2 ^ q = m' * 2 ^ q') (hle : q ≤ q')
    (hm : m < 2 ^ 53) (hq : -1074 ≤ q) (hm' : m' < 2 ^ 52 → q' = -1074) : m = m' ∧ q = q' := by
  obtain ⟨n, rfl⟩ := Int.le.dest hle
  have hscaled : m = m' * 2 ^ n := by
    rw [zpow_add₀ (by norm_num), zpow_natCast, ← mul_assoc, mul_right_comm] at h
    exact_mod_cast mul_right_cancel₀ (twoPow_pos q).ne' h
  cases n with
  | zero => exact ⟨by simpa using hscaled, by simp⟩
  | succ n =>
    have hlarge : 2 ^ 52 ≤ m' := by
      by_contra hsmall
      have := hm' (by omega)
      omega
    have hdouble : m' * 2 ≤ m := by
      rw [hscaled]
      exact Nat.mul_le_mul_left _ (Nat.le_self_pow (by omega) 2)
    omega

/-- Magnitudes of doubles are the same number only if they are the same. -/
theorem magnitude_inj (h : ((magnitude x).m : ℚ) * 2 ^ (magnitude x).q =
      (magnitude y).m * 2 ^ (magnitude y).q) :
    (magnitude x).m = (magnitude y).m ∧ (magnitude x).q = (magnitude y).q := by
  obtain ⟨hmx, hqx, hx⟩ := magnitude_bounds x
  obtain ⟨hmy, hqy, hy⟩ := magnitude_bounds y
  rcases le_total (magnitude x).q (magnitude y).q with hle | hle
  · exact eq_of_scaled_eq h hle hmx hqx hy
  · obtain ⟨hm, hq⟩ := eq_of_scaled_eq h.symm hle hmy hqy hx
    exact ⟨hm.symm, hq.symm⟩

theorem abs_value (x : Float) : |value x| = (magnitude x).m * 2 ^ (magnitude x).q := by
  have hsigned : |((sign x).apply (magnitude x).m : ℚ)| = (magnitude x).m := by
    cases sign x <;> simp [Sign.apply]
  rw [value, abs_mul, hsigned, abs_of_pos (twoPow_pos _)]

/-- Finite doubles stand for the same number when they are the same, or both are zero. -/
theorem value_eq_iff (x y : Float) : value x = value y ↔
    ((magnitude x).m = 0 ∧ (magnitude y).m = 0) ∨
      (sign x = sign y ∧ (magnitude x).m = (magnitude y).m ∧ (magnitude x).q = (magnitude y).q) := by
  constructor
  · intro h
    have habs := congrArg abs h
    rw [abs_value, abs_value] at habs
    obtain ⟨hm, hq⟩ := magnitude_inj habs
    by_cases h0 : (magnitude x).m = 0
    · exact .inl ⟨h0, hm ▸ h0⟩
    · refine .inr ⟨?_, hm, hq⟩
      -- With other signs the number would be its own opposite.
      rw [value, value, hm, hq] at h
      have hsigned := mul_right_cancel₀ (twoPow_pos (magnitude y).q).ne' h
      cases hx : sign x <;> cases hy : sign y <;> simp [hx, hy, Sign.apply] at hsigned ⊢ <;> omega
  · rintro (⟨hx, hy⟩ | ⟨hs, hm, hq⟩)
    · have hzero (s : Sign) : s.apply (0 : ℕ) = 0 := by cases s <;> rfl
      rw [value, value, hx, hy, hzero, hzero]
      simp
    · rw [value, value, hs, hm, hq]

/-! ## Equality -/

/-- What a double stands for, unless it is no number. -/
inductive Extended where
  | finite (v : ℚ)
  | infinite (s : Sign)

/-- What a double stands for. -/
def extended? (x : Float) : Option Extended :=
  if x.isNaN then none else if x.isInf then some (.infinite (sign x)) else some (.finite (value x))

theorem extended?_eq (x : Float) : extended? x =
    if exponentBits x = 2047 then (if fractionBits x = 0 then some (.infinite (sign x)) else none)
    else some (.finite (value x)) := by
  have hnan : x.isNaN = x.toModel.unpack.isNaN := rfl
  have hinf : x.isInf = x.toModel.unpack.isInf := rfl
  rw [extended?, hnan, hinf, unpack_eq]
  split
  · split <;> rfl
  · rcases Nat.eq_zero_or_pos (magnitude x).m with hm | hm
    · rw [hm, ofParts_zero]
      rfl
    · rw [ofParts_pos hm]
      rfl

theorem compare_finite {s s' : Sign} {m m' : ℕ} {q q' : ℤ} (h : 0 < m) (h' : 0 < m') :
    (UnpackedFloat.finite s m q h).compare (.finite s' m' q' h') = some .eq ↔
      s = s' ∧ m = m' ∧ q = q' := by
  have hthen : (compare q q').then (compare m m') = .eq ↔ m = m' ∧ q = q' := by
    rw [Ordering.then_eq_eq, compare_eq_iff_eq, compare_eq_iff_eq, and_comm]
  cases s <;> cases s'
  · change some ((compare q q').then (compare m m')).swap = some .eq ↔ _
    simp [hthen]
  · exact ⟨by rintro ⟨⟩, by rintro ⟨⟨⟩, -⟩⟩
  · exact ⟨by rintro ⟨⟩, by rintro ⟨⟨⟩, -⟩⟩
  · change some ((compare q q').then (compare m m')) = some .eq ↔ _
    simp [hthen]

theorem compare_ofParts (s s' : Sign) (m m' : ℕ) (q q' : ℤ) :
    (ofParts s m q).compare (ofParts s' m' q') = some .eq ↔
      (m = 0 ∧ m' = 0) ∨ (s = s' ∧ m = m' ∧ q = q') := by
  rcases Nat.eq_zero_or_pos m with rfl | hm <;> rcases Nat.eq_zero_or_pos m' with rfl | hm'
  · rw [ofParts_zero, ofParts_zero]
    exact ⟨fun _ => .inl ⟨rfl, rfl⟩, fun _ => rfl⟩
  · rw [ofParts_zero, ofParts_pos hm']
    refine ⟨by cases s' <;> rintro ⟨⟩, by omega⟩
  · rw [ofParts_pos hm, ofParts_zero]
    refine ⟨by cases s <;> rintro ⟨⟩, by omega⟩
  · rw [ofParts_pos hm, ofParts_pos hm', compare_finite]
    refine ⟨.inr, ?_⟩
    rintro (⟨h, -⟩ | h)
    · omega
    · exact h

/-- Doubles are equal when they stand for the same number or infinity. -/
theorem beq_iff (x y : Float) :
    (x == y) = true ↔ ∃ v, extended? x = some v ∧ extended? y = some v := by
  have hbeq : (x == y) = true ↔ x.toModel.unpack.compare y.toModel.unpack = some .eq := by
    change (x.toModel.unpack.compare y.toModel.unpack == some .eq) = true ↔ _
    exact beq_iff_eq
  have hsame (s t : Sign) : (UnpackedFloat.infinity s).compare (.infinity t) = some .eq ↔ s = t := by
    cases s <;> cases t <;>
      first
        | exact ⟨fun _ => rfl, fun _ => rfl⟩
        | exact ⟨by rintro ⟨⟩, by rintro ⟨⟩⟩
  have hinfinite (s : Sign) (m : ℕ) (q : ℤ) (t : Sign) :
      (UnpackedFloat.infinity t).compare (ofParts s m q) ≠ some .eq ∧
        (ofParts s m q).compare (.infinity t) ≠ some .eq := by
    rcases Nat.eq_zero_or_pos m with rfl | hm
    · rw [ofParts_zero]
      cases t <;> exact ⟨by rintro ⟨⟩, by rintro ⟨⟩⟩
    · rw [ofParts_pos hm]
      cases t <;> cases s <;> exact ⟨by rintro ⟨⟩, by rintro ⟨⟩⟩
  have hnone (u : UnpackedFloat) :
      UnpackedFloat.notANumber.compare u ≠ some .eq ∧ u.compare .notANumber ≠ some .eq := by
    cases u <;> exact ⟨by rintro ⟨⟩, by rintro ⟨⟩⟩
  rw [hbeq, unpack_eq, unpack_eq, extended?_eq, extended?_eq]
  by_cases hx : exponentBits x = 2047 <;> by_cases hy : exponentBits y = 2047 <;>
    simp only [hx, hy, if_true, if_false]
  · split <;> split <;> simp [hnone, hsame, eq_comm]
  · split <;> simp [hnone, hinfinite]
  · split <;> simp [hnone, hinfinite]
  · rw [compare_ofParts, ← value_eq_iff]
    simp [eq_comm]

end Stencil.Number
