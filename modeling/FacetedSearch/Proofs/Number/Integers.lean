import FacetedSearch.Number.Binary64
import Mathlib.Tactic.SplitIfs

/-!
# Integers as binary fractions

The nearest binary fractions of two integers are in the order of the integers, but they may be one
and the same: only up to `2 ^ 53` has each integer a fraction of its own.
-/

namespace FacetedSearch.Binary64

/-! ## Rounding a quotient -/

theorem div_le_roundDiv (num den : Nat) : num / den ≤ roundDiv num den := by
  simp only [roundDiv]
  split_ifs <;> omega

theorem roundDiv_le (num den : Nat) : roundDiv num den ≤ num / den + 1 := by
  simp only [roundDiv]
  split_ifs <;> omega

theorem roundDiv_mono {a b : Nat} (h : a ≤ b) (den : Nat) : roundDiv a den ≤ roundDiv b den := by
  have hq : a / den ≤ b / den := Nat.div_le_div_right h
  rcases Nat.lt_or_eq_of_le hq with hlt | heq
  · exact Nat.le_trans (roundDiv_le a den) (Nat.le_trans hlt (div_le_roundDiv b den))
  · have ha := Nat.div_add_mod a den
    have hb := Nat.div_add_mod b den
    rw [heq] at ha
    have hr : a % den ≤ b % den := by omega
    simp only [roundDiv, heq]
    split_ifs <;> omega

theorem roundDiv_mul {den : Nat} (h : 0 < den) (q : Nat) : roundDiv (q * den) den = q := by
  simp [roundDiv, Nat.mul_div_cancel _ h, h]

/-! ## The magnitude of an integer -/

/-- The significand of the magnitude nearest to an integer, of 53 bits. -/
def roundedSignificand (n : Nat) : Nat :=
  roundDiv (n * 2 ^ (52 - n.log2)) (2 ^ (n.log2 - 52))

theorem log2Ratio_one {n : Nat} (h : n ≠ 0) : log2Ratio n 1 = n.log2 := by
  have hlog : Nat.log2 1 = 0 := by decide
  simp [log2Ratio, hlog, Nat.log2_self_le h]

theorem nearestMagnitude_one {n : Nat} (h : n ≠ 0) : nearestMagnitude n 1 =
    min ((n.log2 + 1022) * 2 ^ 52 + roundedSignificand n) infinite := by
  have hmax : max ((n.log2 : Int) - 52) (-1074) = (n.log2 : Int) - 52 := by omega
  have hup : (-((n.log2 : Int) - 52)).toNat = 52 - n.log2 := by omega
  have hdown : ((n.log2 : Int) - 52).toNat = n.log2 - 52 := by omega
  have hexponent : ((n.log2 : Int) - 52 + 1074).toNat = n.log2 + 1022 := by omega
  simp only [nearestMagnitude, if_neg h, log2Ratio_one h, hmax, hup, hdown, hexponent,
    Nat.one_mul, roundedSignificand]

/-- Up to the exponent `52` the significand is shifted, and from there on its lower bits are cut. -/
theorem two_pow_shift (k e : Nat) : 2 ^ (k + 52) * 2 ^ (e - 52) = 2 ^ (e + k) * 2 ^ (52 - e) := by
  rw [← Nat.pow_add, ← Nat.pow_add]
  congr 1
  omega

theorem le_roundedSignificand {n : Nat} (h : n ≠ 0) : 2 ^ 52 ≤ roundedSignificand n := by
  calc 2 ^ 52 = roundDiv (2 ^ 52 * 2 ^ (n.log2 - 52)) (2 ^ (n.log2 - 52)) :=
        (roundDiv_mul (Nat.two_pow_pos _) _).symm
    _ ≤ roundedSignificand n := roundDiv_mono ?_ _
  have hshift := two_pow_shift 0 n.log2
  rw [Nat.zero_add, Nat.add_zero] at hshift
  rw [hshift]
  exact Nat.mul_le_mul_right _ (Nat.log2_self_le h)

theorem roundedSignificand_le (n : Nat) : roundedSignificand n ≤ 2 ^ 53 := by
  calc roundedSignificand n ≤ roundDiv (2 ^ 53 * 2 ^ (n.log2 - 52)) (2 ^ (n.log2 - 52)) :=
        roundDiv_mono ?_ _
    _ = 2 ^ 53 := roundDiv_mul (Nat.two_pow_pos _) _
  rw [two_pow_shift 1 n.log2]
  exact Nat.mul_le_mul_right _ (Nat.le_of_lt Nat.lt_log2_self)

theorem roundedSignificand_mono {m n : Nat} (hlog : m.log2 = n.log2) (h : m ≤ n) :
    roundedSignificand m ≤ roundedSignificand n := by
  rw [roundedSignificand, roundedSignificand, hlog]
  exact roundDiv_mono (Nat.mul_le_mul_right _ h) _

/-- An integer of no more than 53 bits keeps all of them. -/
theorem roundedSignificand_eq {n : Nat} (h : n.log2 ≤ 52) :
    roundedSignificand n = n * 2 ^ (52 - n.log2) := by
  have hden : 2 ^ (n.log2 - 52) = 1 := by rw [Nat.sub_eq_zero_of_le h]
  rw [roundedSignificand, hden]
  simpa using roundDiv_mul Nat.one_pos (n * 2 ^ (52 - n.log2))

theorem roundedSignificand_lt {n : Nat} (h : n.log2 ≤ 52) : roundedSignificand n < 2 ^ 53 := by
  rw [roundedSignificand_eq h]
  calc n * 2 ^ (52 - n.log2) < 2 ^ (n.log2 + 1) * 2 ^ (52 - n.log2) :=
        Nat.mul_lt_mul_of_pos_right Nat.lt_log2_self (Nat.two_pow_pos _)
    _ = 2 ^ 53 := by
        rw [← Nat.pow_add]
        congr 1
        omega

/-- A rounded significand may reach the next power of two, and no further: there the magnitudes of
the next exponent start. -/
theorem nearestMagnitude_mono {m n : Nat} (h : m ≤ n) :
    nearestMagnitude m 1 ≤ nearestMagnitude n 1 := by
  by_cases hm : m = 0
  · simp [hm, nearestMagnitude]
  · have hn : n ≠ 0 := by omega
    have hlog : m.log2 ≤ n.log2 := (Nat.le_log2 hn).mpr (Nat.le_trans (Nat.log2_self_le hm) h)
    rw [nearestMagnitude_one hm, nearestMagnitude_one hn]
    rcases Nat.lt_or_eq_of_le hlog with hlt | heq
    · have hle := roundedSignificand_le m
      have hge := le_roundedSignificand hn
      omega
    · have hle := roundedSignificand_mono heq h
      omega

theorem nearestMagnitude_strictMono {m n : Nat} (h : m < n) (hn : n ≤ 2 ^ 53) :
    nearestMagnitude m 1 < nearestMagnitude n 1 := by
  have hn0 : n ≠ 0 := by omega
  have hge := le_roundedSignificand hn0
  have hlogn : n.log2 < 54 := (Nat.log2_lt hn0).mpr (by omega)
  by_cases hm : m = 0
  · have hzero : nearestMagnitude m 1 = 0 := by simp [hm, nearestMagnitude]
    rw [hzero, nearestMagnitude_one hn0, infinite]
    omega
  · have hlogm : m.log2 < 53 := (Nat.log2_lt hm).mpr (by omega)
    have hlog : m.log2 ≤ n.log2 :=
      (Nat.le_log2 hn0).mpr (Nat.le_trans (Nat.log2_self_le hm) (Nat.le_of_lt h))
    have hlt := roundedSignificand_lt (Nat.le_of_lt_succ hlogm)
    rw [nearestMagnitude_one hm, nearestMagnitude_one hn0, infinite]
    rcases Nat.lt_or_eq_of_le hlog with hlogs | heq
    · omega
    · have hsignificand : roundedSignificand m < roundedSignificand n := by
        rw [roundedSignificand_eq (by omega), roundedSignificand_eq (by omega), heq]
        exact Nat.mul_lt_mul_of_pos_right h (Nat.two_pow_pos _)
      have hle := roundedSignificand_le n
      omega

/-! ## Places in the order -/

theorem nearestMagnitude_lt (num den : Nat) : nearestMagnitude num den < 2 ^ 63 := by
  have hinfinite : infinite < 2 ^ 63 := by decide
  simp only [nearestMagnitude]
  split
  · decide
  · exact Nat.lt_of_le_of_lt (Nat.min_le_right _ _) hinfinite

theorem toNat_bits (x : Binary64) :
    x.bits.toNat = if x.negative then 2 ^ 63 + x.magnitude else x.magnitude := by
  have hbits := x.bits.toNat_lt
  simp only [negative, magnitude, decide_eq_true_eq]
  split_ifs <;> omega

theorem orderKey_ofMagnitude (negative : Bool) {m : Nat} (h : m < 2 ^ 63) :
    (ofMagnitude negative m).orderKey = if negative then -(m : Int) - 1 else m := by
  have hmod : m % 2 ^ 63 = m := Nat.mod_eq_of_lt h
  cases negative with
  | false =>
      have hbits : (ofMagnitude false m).bits.toNat = m := by
        simp [ofMagnitude]
        omega
      have hsign : ¬ 2 ^ 63 ≤ m := Nat.not_le.mpr h
      simp only [orderKey, Binary64.negative, magnitude, hbits, hmod, hsign, decide_false]
  | true =>
      have hbits : (ofMagnitude true m).bits.toNat = 2 ^ 63 + m := by
        simp [ofMagnitude]
        omega
      have hsign : 2 ^ 63 ≤ 2 ^ 63 + m := Nat.le_add_right _ _
      simp only [orderKey, Binary64.negative, magnitude, hbits, hsign, decide_true,
        Nat.add_mod_left, hmod]

theorem orderKey_injective {x y : Binary64} (h : x.orderKey = y.orderKey) : x = y := by
  have hx := x.toNat_bits
  have hy := y.toNat_bits
  have hbits : x.bits.toNat = y.bits.toNat := by
    simp only [orderKey] at h
    split_ifs at h hx hy <;> omega
  cases x
  cases y
  exact congrArg mk (UInt64.toNat_inj.mp hbits)

theorem orderKey_ofInt (n : Int) : (ofInt n).orderKey =
    if n < 0 then -(nearestMagnitude n.natAbs 1 : Int) - 1 else nearestMagnitude n.natAbs 1 := by
  rw [ofInt, ofRatio, orderKey_ofMagnitude _ (nearestMagnitude_lt n.natAbs 1)]
  simp only [decide_eq_true_eq]

/-- Rounding to the nearest fraction keeps the order of integers, though not their difference. -/
theorem orderKey_ofInt_mono {m n : Int} (h : m ≤ n) :
    (ofInt m).orderKey ≤ (ofInt n).orderKey := by
  rw [orderKey_ofInt, orderKey_ofInt]
  split_ifs with hm hn hn
  · have hle := nearestMagnitude_mono (m := n.natAbs) (n := m.natAbs) (by omega)
    omega
  · omega
  · omega
  · have hle := nearestMagnitude_mono (m := m.natAbs) (n := n.natAbs) (by omega)
    omega

/-- What is in order once rounded was so before, or the difference was lost. -/
theorem ofInt_eq_or_le {m n : Int} (h : (ofInt m).orderKey ≤ (ofInt n).orderKey) :
    ofInt m = ofInt n ∨ m ≤ n := by
  rcases Int.le_total m n with hle | hge
  · exact Or.inr hle
  · exact Or.inl (orderKey_injective (Int.le_antisymm h (orderKey_ofInt_mono hge)))

/-- No two integers up to `2 ^ 53` have one nearest fraction. -/
theorem ofInt_injective {m n : Int} (hm : m.natAbs ≤ 2 ^ 53) (hn : n.natAbs ≤ 2 ^ 53)
    (h : ofInt m = ofInt n) : m = n := by
  have hkey := congrArg orderKey h
  rw [orderKey_ofInt, orderKey_ofInt] at hkey
  have hmagnitude : nearestMagnitude m.natAbs 1 = nearestMagnitude n.natAbs 1 ∧
      (m < 0 ↔ n < 0) := by
    split_ifs at hkey <;> omega
  have habs : m.natAbs = n.natAbs := by
    rcases Nat.lt_trichotomy m.natAbs n.natAbs with hlt | heq | hgt
    · have hne := nearestMagnitude_strictMono hlt hn
      omega
    · exact heq
    · have hne := nearestMagnitude_strictMono hgt hm
      omega
  omega

end FacetedSearch.Binary64
