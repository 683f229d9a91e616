import Mathlib.Algebra.Order.Floor.Semifield
import Mathlib.Data.Nat.Cast.Order.Field
import Mathlib.Data.Rat.Floor
import Mathlib.Tactic.FieldSimp
import Stencil.Number.Shortest
import Stencil.Proofs.DoubleValues

/-!
# Rounding intervals

A magnitude may be written as any decimal of its rounding interval. The intervals of different magnitudes
have no decimal in common: between two neighbours the end of one interval is the end of the other, and it
belongs to the even one only. As the shortest decimal of an interval lies in it, it determines the
magnitude that it is written for.
-/

namespace Stencil.Number

/-- The number that a decimal stands for. -/
def Decimal.value (d : Decimal) : ℚ := d.digits * 10 ^ d.exponent

/-- The number that a magnitude stands for. -/
def Binary.value (b : Binary) : ℚ := b.m * 2 ^ b.q

/-- The magnitudes of doubles: only the smallest power of two has room in the last place. -/
structure Binary.Proper (b : Binary) : Prop where
  lt : b.m < 2 ^ 53
  least : -1074 ≤ b.q
  full : b.m < 2 ^ 52 → b.q = -1074

theorem proper_magnitude (x : Float) : (magnitude x).Proper := by
  obtain ⟨hlt, hleast, hfull⟩ := magnitude_bounds x
  exact ⟨hlt, hleast, hfull⟩

namespace Interval

/-- The lower end of an interval. -/
def lower (i : Interval) : ℚ := i.low / i.denominator

/-- The upper end of an interval. -/
def upper (i : Interval) : ℚ := i.high / i.denominator

/-- The number in an interval that rounding to its magnitude leaves as it is. -/
def middle (i : Interval) : ℚ := i.value / i.denominator

end Interval

variable {b c : Binary} {d d' : Decimal} {i : Interval} {e : ℤ}

theorem pow_toNat_div_pow (a : ℚ) (e : ℤ) : a ^ e.toNat / a ^ (-e).toNat = a ^ e := by
  obtain ⟨n, rfl | rfl⟩ := Int.eq_nat_or_neg e
  · simp
  · simp

theorem tenTo_div_tenTo (e : ℤ) : (tenTo e.toNat : ℚ) / tenTo (-e).toNat = 10 ^ e := by
  simpa [tenTo] using pow_toNat_div_pow 10 e

theorem twoTo_div_twoTo (e : ℤ) : (twoTo e.toNat : ℚ) / twoTo (-e).toNat = 2 ^ e := by
  simpa [twoTo] using pow_toNat_div_pow 2 e

theorem tenTo_pos (n : ℕ) : (0 : ℚ) < tenTo n := by
  simp [tenTo]

theorem twoTo_pos (n : ℕ) : 0 < twoTo n := Nat.pow_pos (by decide)

/-! ## Membership -/

theorem Decimal.value_eq (d : Decimal) :
    d.value = ((d.digits * tenTo d.exponent.toNat : ℕ) : ℚ) / tenTo (-d.exponent).toNat := by
  rw [value, ← tenTo_div_tenTo, Nat.cast_mul, mul_div_assoc]

/-- A decimal is in an interval when it stands for a number between the ends. -/
theorem Interval.contains_iff (h : 0 < i.denominator) : i.contains d = true ↔
    if i.closed then i.lower ≤ d.value ∧ d.value ≤ i.upper
    else i.lower < d.value ∧ d.value < i.upper := by
  have hden : (0 : ℚ) < i.denominator := by exact_mod_cast h
  have hscale := tenTo_pos (-d.exponent).toNat
  unfold contains
  dsimp only
  rw [d.value_eq, lower, upper]
  split
  · rw [div_le_div_iff₀ hden hscale, div_le_div_iff₀ hscale hden, Bool.and_eq_true,
      decide_eq_true_iff, decide_eq_true_iff]
    norm_cast
  · rw [div_lt_div_iff₀ hden hscale, div_lt_div_iff₀ hscale hden, Bool.and_eq_true,
      decide_eq_true_iff, decide_eq_true_iff]
    norm_cast

/-- How far below a magnitude its interval begins, in quarters of the last place. -/
def Binary.reach (b : Binary) : ℕ := if b.m = 2 ^ 52 ∧ -1074 < b.q then 1 else 2

theorem Binary.reach_eq (b : Binary) :
    (if (b.m = twoTo 52 && b.q > -1074) = true then 1 else 2) = b.reach := by
  have htwo : twoTo 52 = 2 ^ 52 := rfl
  simp [reach, htwo]

theorem Binary.denominator_pos (b : Binary) : 0 < b.interval.denominator := twoTo_pos _

theorem Binary.scaled_eq (b : Binary) (n : ℕ) :
    ((n * twoTo (b.q - 2).toNat : ℕ) : ℚ) / b.interval.denominator = n * 2 ^ (b.q - 2) := by
  have hden : b.interval.denominator = twoTo (-(b.q - 2)).toNat := by
    rw [neg_sub]
    rfl
  rw [hden, Nat.cast_mul, mul_div_assoc, twoTo_div_twoTo]

theorem Binary.lower_eq (b : Binary) :
    b.interval.lower = (4 * b.m - b.reach : ℕ) * 2 ^ (b.q - 2) := by
  rw [← b.scaled_eq, ← b.reach_eq]
  rfl

theorem Binary.upper_eq (b : Binary) : b.interval.upper = (4 * b.m + 2 : ℕ) * 2 ^ (b.q - 2) := by
  rw [← b.scaled_eq]
  rfl

theorem Binary.middle_eq (b : Binary) : b.interval.middle = b.value := by
  have hmiddle : b.interval.middle = (4 * b.m : ℕ) * 2 ^ (b.q - 2) := by
    rw [← b.scaled_eq]
    rfl
  have hfour : (2 : ℚ) ^ b.q = 4 * 2 ^ (b.q - 2) := by
    rw [show b.q = 2 + (b.q - 2) by omega, zpow_add₀ (by norm_num)]
    norm_num
  rw [hmiddle, value, hfour]
  push_cast
  ring

theorem Binary.closed_iff (b : Binary) : b.interval.closed = true ↔ b.m % 2 = 0 := decide_eq_true_iff

/-! ## Intervals of different magnitudes -/

/-- A magnitude that is below another one has no greater last place. -/
theorem Binary.Proper.exponent_le (hb : b.Proper) (hc : c.Proper) (h : b.value < c.value) :
    b.q ≤ c.q := by
  by_contra hlt
  rw [not_le] at hlt
  have hfull : 2 ^ 52 ≤ b.m := by
    by_contra hroom
    have := hb.full (by omega)
    have := hc.least
    omega
  have hpow : (2 : ℚ) ^ (c.q + 1) ≤ 2 ^ b.q := zpow_le_zpow_right₀ (by norm_num) (by omega)
  have hbelow : c.value < 2 ^ 52 * 2 ^ (c.q + 1) := by
    rw [zpow_add_one₀ (by norm_num), value, mul_comm (2 ^ c.q : ℚ) 2, ← mul_assoc]
    have hm : (c.m : ℚ) < 2 ^ 52 * 2 := by exact_mod_cast hc.lt
    exact mul_lt_mul_of_pos_right hm (twoPow_pos _)
  have habove : (2 : ℚ) ^ 52 * 2 ^ b.q ≤ b.value := by
    rw [value]
    have hm : (2 : ℚ) ^ 52 ≤ b.m := by exact_mod_cast hfull
    exact mul_le_mul_of_nonneg_right hm (twoPow_pos _).le
  have hmiddle : (2 : ℚ) ^ 52 * 2 ^ (c.q + 1) ≤ 2 ^ 52 * 2 ^ b.q := by gcongr
  exact absurd h (not_lt.2 ((hbelow.le.trans hmiddle).trans habove))

/-- The interval of a magnitude ends before that of a greater one begins. Where they meet, one of the
two magnitudes is odd. -/
theorem Binary.Proper.quarters_le (hb : b.Proper) (hc : c.Proper) {n : ℕ} (hq : c.q = b.q + n)
    (h : b.m < c.m * 2 ^ n) : 4 * b.m + 2 ≤ (4 * c.m - c.reach) * 2 ^ n ∧
      (4 * b.m + 2 = (4 * c.m - c.reach) * 2 ^ n → ¬ (b.m % 2 = 0 ∧ c.m % 2 = 0)) := by
  have hlt := hb.lt
  have hleast := hb.least
  cases n with
  | zero =>
    rw [pow_zero, mul_one] at h ⊢
    have hreach : c.reach = 2 := by
      refine if_neg fun hclose => ?_
      have := hb.full (by omega)
      omega
    rw [hreach]
    omega
  | succ n =>
    have hfull : 2 ^ 52 ≤ c.m := by
      by_contra hroom
      have := hc.full (by omega)
      omega
    have hstart : 2 ^ 54 - 1 ≤ 4 * c.m - c.reach := by
      unfold reach
      split <;> omega
    have hpos : 0 < 2 ^ n := Nat.two_pow_pos n
    have hscaled : (4 * c.m - c.reach) * 2 ≤ (4 * c.m - c.reach) * 2 ^ (n + 1) :=
      Nat.mul_le_mul_left _ (by rw [pow_succ]; omega)
    generalize (4 * c.m - c.reach) * 2 ^ (n + 1) = start at hscaled ⊢
    omega

theorem Binary.Proper.upper_le_lower (hb : b.Proper) (hc : c.Proper) (h : b.value < c.value) :
    b.interval.upper ≤ c.interval.lower ∧ (b.interval.upper = c.interval.lower →
      ¬ (b.interval.closed = true ∧ c.interval.closed = true)) := by
  obtain ⟨n, hn⟩ := Int.le.dest (hb.exponent_le hc h)
  have hpow : (2 : ℚ) ^ (c.q - 2) = 2 ^ n * 2 ^ (b.q - 2) := by
    rw [← zpow_natCast, ← zpow_add₀ (by norm_num)]
    congr 1
    omega
  have hm : b.m < c.m * 2 ^ n := by
    rw [value, value, ← hn, zpow_add₀ (by norm_num), zpow_natCast, mul_comm ((2 : ℚ) ^ b.q),
      ← mul_assoc] at h
    exact_mod_cast lt_of_mul_lt_mul_right h (twoPow_pos _).le
  obtain ⟨hle, hne⟩ := hb.quarters_le hc hn.symm hm
  have hpos := twoPow_pos (b.q - 2)
  rw [b.upper_eq, c.lower_eq, hpow, ← mul_assoc, b.closed_iff, c.closed_iff]
  refine ⟨mul_le_mul_of_nonneg_right (by exact_mod_cast hle) hpos.le, fun heq => hne ?_⟩
  exact_mod_cast mul_right_cancel₀ hpos.ne' heq

theorem Interval.between (h : 0 < i.denominator) (hd : i.contains d = true) :
    i.lower ≤ d.value ∧ d.value ≤ i.upper := by
  rw [contains_iff h] at hd
  split at hd
  · exact hd
  · exact ⟨hd.1.le, hd.2.le⟩

theorem Interval.closed_of_end (h : 0 < i.denominator) (hd : i.contains d = true)
    (hend : d.value = i.lower ∨ d.value = i.upper) : i.closed = true := by
  rw [contains_iff h] at hd
  split at hd
  · assumption
  · rcases hend with hend | hend
    · exact absurd hend hd.1.ne'
    · exact absurd hend hd.2.ne

/-- Intervals that have a number in common are those of one magnitude. -/
theorem Binary.Proper.value_le_of_common (hb : b.Proper) (hc : c.Proper)
    (hd : b.interval.contains d = true) (hd' : c.interval.contains d' = true)
    (h : d.value = d'.value) : c.value ≤ b.value := by
  by_contra hlt
  obtain ⟨hle, hne⟩ := hb.upper_le_lower hc (not_le.1 hlt)
  have hupper := (Interval.between b.denominator_pos hd).2
  have hlower := (Interval.between c.denominator_pos hd').1
  have hmeet : b.interval.upper = c.interval.lower := by
    rw [← h] at hlower
    exact le_antisymm hle (hlower.trans hupper)
  refine hne hmeet ⟨Interval.closed_of_end b.denominator_pos hd (.inr ?_),
    Interval.closed_of_end c.denominator_pos hd' (.inl ?_)⟩
  · exact le_antisymm hupper (hmeet ▸ h ▸ hlower)
  · exact le_antisymm (h ▸ hmeet ▸ hupper) hlower

theorem Binary.Proper.value_eq_of_common (hb : b.Proper) (hc : c.Proper)
    (hd : b.interval.contains d = true) (hd' : c.interval.contains d' = true)
    (h : d.value = d'.value) : b.value = c.value :=
  le_antisymm (hc.value_le_of_common hb hd' hd h.symm) (hb.value_le_of_common hc hd hd' h)

/-! ## The shortest decimal -/

/-- The grid point below the middle of an interval is less than a unit of the grid away from it. -/
theorem Interval.below_bounds (h : 0 < i.denominator) (e : ℤ) :
    (i.below e).value ≤ i.middle ∧ i.middle < (i.below e).value + 10 ^ e := by
  have hpow : (0 : ℚ) < 10 ^ e := zpow_pos (by norm_num) e
  have hscaled : ((i.value * tenTo (-e).toNat : ℕ) : ℚ) / (i.denominator * tenTo e.toNat : ℕ) =
      i.middle / 10 ^ e := by
    have hden : (i.denominator : ℚ) ≠ 0 := by exact_mod_cast h.ne'
    have hup := (tenTo_pos e.toNat).ne'
    have hdown := (tenTo_pos (-e).toNat).ne'
    rw [middle, ← tenTo_div_tenTo, Nat.cast_mul, Nat.cast_mul]
    field_simp
  have hfloor := Nat.floor_div_eq_div (K := ℚ) (i.value * tenTo (-e).toNat) (i.denominator * tenTo e.toNat)
  rw [hscaled] at hfloor
  have hpos : 0 ≤ i.middle / 10 ^ e := by
    rw [middle]
    positivity
  have hle := Nat.floor_le hpos
  have hlt := Nat.lt_floor_add_one (i.middle / 10 ^ e)
  rw [hfloor] at hle hlt
  rw [le_div_iff₀ hpow] at hle
  rw [div_lt_iff₀ hpow, add_mul, one_mul] at hlt
  exact ⟨hle, hlt⟩

theorem le_mul_raisesToOne {num den fuel : ℕ} (h : den ≤ num * 10 ^ fuel) :
    den ≤ num * 10 ^ raisesToOne num den fuel := by
  induction fuel generalizing num with
  | zero => exact h
  | succ fuel ih =>
    rw [raisesToOne]
    split
    · rw [pow_succ', ← mul_assoc] at h ⊢
      exact ih h
    · rw [pow_zero, mul_one]
      omega

theorem pow_length_toDigits_le {n : ℕ} (h : n ≠ 0) : 10 ^ ((Nat.toDigits 10 n).length - 1) ≤ n := by
  rw [← not_lt]
  intro hlt
  have hpos := Nat.length_toDigits_pos (b := 10) (n := n)
  by_cases hone : (Nat.toDigits 10 n).length = 1
  · rw [hone, Nat.sub_self, pow_zero] at hlt
    omega
  · have hle := (Nat.length_toDigits_le_iff (by decide) (by omega)).2 hlt
    omega

/-- The first digit of a number stands at a power of ten that the number reaches. -/
theorem Interval.leading_le (h : 0 < i.denominator) (hfuel : i.denominator ≤ i.value * 10 ^ 400) :
    (10 : ℚ) ^ i.leading ≤ i.middle := by
  have hden : (0 : ℚ) < i.denominator := by exact_mod_cast h
  unfold leading
  dsimp only
  split
  · have hraised := le_mul_raisesToOne hfuel
    generalize raisesToOne i.value i.denominator 400 = k at hraised ⊢
    have hk : (0 : ℚ) < 10 ^ k := by positivity
    rw [zpow_neg, zpow_natCast, middle, le_div_iff₀ hden, inv_mul_le_iff₀ hk, mul_comm]
    exact_mod_cast hraised
  · rename_i hwhole
    have hlength := pow_length_toDigits_le hwhole
    generalize hn : (Nat.toDigits 10 (i.value / i.denominator)).length = n at hlength ⊢
    have hpos : 0 < n := hn ▸ Nat.length_toDigits_pos
    have hwhole_le : ((i.value / i.denominator : ℕ) : ℚ) ≤ i.middle := Nat.cast_div_le
    rw [show (n : ℤ) - 1 = (n - 1 : ℕ) by omega, zpow_natCast]
    exact le_trans (by exact_mod_cast hlength) hwhole_le

theorem pow_two_le_pow_ten {k n : ℕ} (h : k ≤ 3 * n) : 2 ^ k ≤ 10 ^ n :=
  calc 2 ^ k ≤ 2 ^ (3 * n) := Nat.pow_le_pow_right (by decide) h
    _ = (2 ^ 3) ^ n := pow_mul 2 3 n
    _ ≤ 10 ^ n := Nat.pow_le_pow_left (by decide) n

/-- Eighteen digits are enough: the grid point below a magnitude is in its interval. -/
theorem Binary.Proper.contains_below (hb : b.Proper) (hm : 0 < b.m) :
    b.interval.contains (b.interval.below (b.interval.leading - 17)) = true := by
  have hlead : (10 : ℚ) ^ b.interval.leading ≤ b.value := by
    rw [← b.middle_eq]
    refine Interval.leading_le b.denominator_pos ?_
    have hleast := hb.least
    have hval : 1 ≤ b.interval.value := Nat.mul_pos (by omega) (twoTo_pos _)
    calc b.interval.denominator ≤ 10 ^ 400 := pow_two_le_pow_ten (by omega)
      _ ≤ b.interval.value * 10 ^ 400 := Nat.le_mul_of_pos_left _ hval
  obtain ⟨hbelow, habove⟩ := Interval.below_bounds b.denominator_pos (b.interval.leading - 17)
  rw [b.middle_eq] at hbelow habove
  have hpos := twoPow_pos (b.q - 2)
  have hvalue : b.value = 4 * b.m * 2 ^ (b.q - 2) := by
    rw [← b.middle_eq, Interval.middle]
    have h := b.scaled_eq (4 * b.m)
    push_cast at h ⊢
    exact_mod_cast h
  -- A unit of the grid is less than a quarter of the last place.
  have hunit : (10 : ℚ) ^ (b.interval.leading - 17) < 2 ^ (b.q - 2) := by
    have hlt : (b.m : ℚ) < 2 ^ 53 := by exact_mod_cast hb.lt
    rw [zpow_sub₀ (by norm_num), div_lt_iff₀ (by positivity)]
    calc (10 : ℚ) ^ b.interval.leading ≤ 4 * b.m * 2 ^ (b.q - 2) := hvalue ▸ hlead
      _ < 4 * 2 ^ 53 * 2 ^ (b.q - 2) := by gcongr
      _ ≤ 2 ^ (b.q - 2) * 10 ^ (17 : ℤ) := by
        rw [mul_comm]
        gcongr
        norm_num
  have hlower : b.interval.lower + 2 ^ (b.q - 2) ≤ b.value := by
    have hreach : 1 ≤ b.reach ∧ b.reach ≤ 4 * b.m := by
      unfold reach
      split <;> omega
    rw [b.lower_eq, hvalue, ← add_one_mul]
    gcongr
    have : ((4 * b.m - b.reach + 1 : ℕ) : ℚ) ≤ (4 * b.m : ℕ) := by exact_mod_cast (by omega)
    push_cast at this
    exact_mod_cast this
  have hupper : b.value < b.interval.upper := by
    rw [b.upper_eq, hvalue]
    gcongr
    push_cast
    linarith
  rw [Interval.contains_iff b.denominator_pos]
  have hstrict : b.interval.lower < (b.interval.below (b.interval.leading - 17)).value ∧
      (b.interval.below (b.interval.leading - 17)).value < b.interval.upper :=
    ⟨by linarith, by linarith⟩
  split
  · exact ⟨hstrict.1.le, hstrict.2.le⟩
  · exact hstrict

theorem Interval.contains_of_nearest? (h : i.nearest? e = some d) : i.contains d = true := by
  unfold nearest? at h
  dsimp only at h
  split at h
  · split at h <;> cases h <;> assumption
  · cases h
    assumption
  · cases h
    assumption
  · cases h

theorem Interval.exists_nearest? (h : i.contains (i.below e) = true) : ∃ d, i.nearest? e = some d := by
  unfold nearest?
  dsimp only
  rw [h]
  split
  · split <;> exact ⟨_, rfl⟩
  · exact ⟨_, rfl⟩
  · exact ⟨_, rfl⟩
  · rename_i hnone _
    cases hnone

/-- The shortest decimal of a magnitude rounds to it. -/
theorem Binary.Proper.contains_shortest (hb : b.Proper) (hm : 0 < b.m) :
    b.interval.contains b.interval.shortest = true := by
  obtain ⟨d, hd⟩ := Interval.exists_nearest? (hb.contains_below hm)
  unfold Interval.shortest
  dsimp only
  cases hfound : (List.range 18).findSome? fun n : ℕ => b.interval.nearest? (b.interval.leading - n) with
  | none =>
    rw [List.findSome?_eq_none_iff] at hfound
    have hnone := hfound 17 (by simp)
    rw [show b.interval.leading - ((17 : ℕ) : ℤ) = b.interval.leading - 17 from rfl, hd] at hnone
    cases hnone
  | some d' =>
    obtain ⟨n, -, hn⟩ := List.exists_of_findSome?_eq_some hfound
    exact Interval.contains_of_nearest? hn

end Stencil.Number
