import Mathlib.Algebra.Group.Nat.Defs
import Mathlib.Data.Nat.Basic
import RequestFlow.Number.Basic

/-!
# RequestFlow.Proofs.Number.Rounding

The rounding of integers to binary64 numbers.

* `roundTo`           — rounding to the multiples of a step; `nearest_whole` says that whole counts
  are rounded so, with a step that depends on their magnitude.
* `nearest_mono`      — rounding keeps the order, across magnitudes too.
* `wholeSigned`       — the value to which an integer is rounded. It is the integer itself below
  `2^53`, and `wholeSigned_inj` says that such an integer is not met by another one.
* `Number.compare_int`, `Number.combine_signed`, `Number.combine_wide` — what this makes of the
  operations on integers.
-/

namespace RequestFlow
namespace Binary64

/-- The distance between neighbouring counts of 53 significant bits around `n`. -/
def spacing (n : Nat) : Nat := 2 ^ (n.log2 - 52)

/-- The neighbour of `n` on the grid of multiples of `step` that is nearest, of two the even one. -/
def roundTo (step n : Nat) : Nat :=
  if step < 2 * (n % step) ∨ (2 * (n % step) = step ∧ n / step % 2 = 1) then (n / step + 1) * step
  else n / step * step

theorem nearest_whole (n : Nat) : nearest n 1 = roundTo (spacing n) n := by
  have hdiv : n / 1 = n := Nat.div_one n
  have hmul : ∀ k, 1 * k = k := Nat.one_mul
  rw [nearest, hdiv, hmul]
  rfl

variable {step n m : Nat}

theorem roundTo_of_dvd (h : step ∣ n) : roundTo step n = n := by
  obtain ⟨k, rfl⟩ := h
  rcases Nat.eq_zero_or_pos step with rfl | hpos
  · simp [roundTo]
  · have hmod : step * k % step = 0 := Nat.mul_mod_right step k
    have hnot : ¬ (step < 2 * (step * k % step) ∨
        (2 * (step * k % step) = step ∧ step * k / step % 2 = 1)) := by
      rw [hmod]
      omega
    rw [roundTo, if_neg hnot, Nat.mul_div_cancel_left k hpos, Nat.mul_comm]

theorem le_roundTo (step n : Nat) : n / step * step ≤ roundTo step n := by
  rw [roundTo]
  split
  · exact Nat.mul_le_mul_right step (Nat.le_succ _)
  · exact Nat.le_refl _

theorem roundTo_le (step n : Nat) : roundTo step n ≤ (n / step + 1) * step := by
  rw [roundTo]
  split
  · exact Nat.le_refl _
  · exact Nat.mul_le_mul_right step (Nat.le_succ _)

theorem roundTo_mono (step : Nat) (h : n ≤ m) : roundTo step n ≤ roundTo step m := by
  have hq : n / step ≤ m / step := Nat.div_le_div_right h
  rcases Nat.lt_or_eq_of_le hq with hlt | heq
  · calc roundTo step n ≤ (n / step + 1) * step := roundTo_le step n
      _ ≤ m / step * step := Nat.mul_le_mul_right step hlt
      _ ≤ roundTo step m := le_roundTo step m
  · -- In one cell of the grid only what is left over counts.
    have hn := Nat.div_add_mod n step
    have hm := Nat.div_add_mod m step
    rw [heq] at hn
    have hr : n % step ≤ m % step := by omega
    have hup : n / step * step ≤ roundTo step m := heq ▸ le_roundTo step m
    rw [roundTo]
    split
    · rename_i hn
      rw [heq] at hn
      rw [roundTo, heq, if_pos (by omega)]
    · exact hup

/-! ## Magnitudes -/

theorem roundTo_spacing_of_small (h : n.log2 ≤ 52) : roundTo (spacing n) n = n := by
  have hone : spacing n = 1 := by rw [spacing, Nat.sub_eq_zero_of_le h, Nat.pow_zero]
  rw [hone]
  exact roundTo_of_dvd (Nat.one_dvd n)

theorem two_pow_log2_le_nearest (hn : n ≠ 0) : 2 ^ n.log2 ≤ nearest n 1 := by
  rw [nearest_whole]
  have hlow := Nat.log2_self_le hn
  rcases Nat.le_total n.log2 52 with hsmall | hlarge
  · rwa [roundTo_spacing_of_small hsmall]
  · have hdvd : spacing n ∣ 2 ^ n.log2 := Nat.pow_dvd_pow 2 (Nat.sub_le _ _)
    calc 2 ^ n.log2 = 2 ^ n.log2 / spacing n * spacing n := (Nat.div_mul_cancel hdvd).symm
      _ ≤ n / spacing n * spacing n := Nat.mul_le_mul_right _ (Nat.div_le_div_right hlow)
      _ ≤ roundTo (spacing n) n := le_roundTo _ n

theorem nearest_le_two_pow (n : Nat) : nearest n 1 ≤ 2 ^ (n.log2 + 1) := by
  rw [nearest_whole]
  have hhigh := Nat.lt_log2_self (n := n)
  have hdvd : spacing n ∣ 2 ^ (n.log2 + 1) := Nat.pow_dvd_pow 2 (by omega)
  have hcell : n / spacing n < 2 ^ (n.log2 + 1) / spacing n :=
    Nat.div_lt_div_of_lt_of_dvd hdvd hhigh
  calc roundTo (spacing n) n ≤ (n / spacing n + 1) * spacing n := roundTo_le _ n
    _ ≤ 2 ^ (n.log2 + 1) / spacing n * spacing n := Nat.mul_le_mul_right _ hcell
    _ = 2 ^ (n.log2 + 1) := Nat.div_mul_cancel hdvd

/-- Rounding keeps the order. -/
theorem nearest_mono (h : n ≤ m) : nearest n 1 ≤ nearest m 1 := by
  rcases Nat.eq_zero_or_pos n with rfl | hn
  · rw [nearest_whole, roundTo_of_dvd (Nat.dvd_zero _)]
    exact Nat.zero_le _
  · have hn : n ≠ 0 := Nat.ne_of_gt hn
    have hm : m ≠ 0 := by omega
    have hlog : n.log2 ≤ m.log2 := by
      rw [Nat.le_log2 hm]
      exact Nat.le_trans (Nat.log2_self_le hn) h
    rcases Nat.lt_or_eq_of_le hlog with hlt | heq
    · calc nearest n 1 ≤ 2 ^ (n.log2 + 1) := nearest_le_two_pow n
        _ ≤ 2 ^ m.log2 := Nat.pow_le_pow_right (by decide) hlt
        _ ≤ nearest m 1 := two_pow_log2_le_nearest hm
    · -- Between two powers of two the grid stays the same.
      have hspacing : spacing n = spacing m := by rw [spacing, spacing, heq]
      rw [nearest_whole, nearest_whole, hspacing]
      exact roundTo_mono _ h

/-- Counts of 53 significant bits are exact. -/
theorem nearest_mul_two_pow {k : Nat} (hk : k < 2 ^ 53) (e : Nat) :
    nearest (k * 2 ^ e) 1 = k * 2 ^ e := by
  rw [nearest_whole]
  refine roundTo_of_dvd ?_
  rcases Nat.eq_zero_or_pos k with rfl | hpos
  · rw [Nat.zero_mul]
    exact Nat.dvd_zero _
  · have hne : k * 2 ^ e ≠ 0 := Nat.ne_of_gt (Nat.mul_pos hpos (Nat.two_pow_pos e))
    have hlt : k * 2 ^ e < 2 ^ (53 + e) := by
      rw [Nat.pow_add]
      exact Nat.mul_lt_mul_of_pos_right hk (Nat.two_pow_pos e)
    have hlog := (Nat.log2_lt hne).mpr hlt
    exact Nat.dvd_mul_left_of_dvd (Nat.pow_dvd_pow 2 (by omega)) k

theorem spacing_dvd_nearest (n : Nat) : spacing n ∣ nearest n 1 := by
  rw [nearest_whole, roundTo]
  split
  · exact Nat.dvd_mul_left _ _
  · exact Nat.dvd_mul_left _ _

theorem nearest_representable (h : n < 2 ^ 2097) : Representable (nearest n 1) := by
  rcases Nat.eq_zero_or_pos n with rfl | hn
  · rw [nearest_whole, roundTo_of_dvd (Nat.dvd_zero _)]
    exact (zero false).representable
  · have hn : n ≠ 0 := Nat.ne_of_gt hn
    have hlow := two_pow_log2_le_nearest hn
    have hhigh := nearest_le_two_pow n
    have hlog (e : Nat) (he : n < 2 ^ e) : n.log2 < e := (Nat.log2_lt hn).mpr he
    refine ⟨Nat.lt_of_le_of_lt hhigh ?_, Nat.mod_eq_zero_of_dvd ?_⟩
    · apply Nat.pow_lt_pow_right Nat.one_lt_two
      exact Nat.succ_lt_succ (hlog 2097 h)
    · rcases Nat.lt_or_eq_of_le hhigh with hlt | heq
      · have hpos := Nat.two_pow_pos n.log2
        have hne : nearest n 1 ≠ 0 := by omega
        have hsame : (nearest n 1).log2 = n.log2 := (Nat.log2_eq_iff hne).mpr ⟨hlow, hlt⟩
        rw [hsame]
        exact spacing_dvd_nearest n
      · rw [heq, Nat.log2_two_pow]
        exact Nat.pow_dvd_pow 2 (Nat.sub_le _ _)

/-! ## Integers -/

/-- The units of the number nearest to a natural number. -/
def wholeUnits (k : Nat) : Nat := nearest (k * one) 1

theorem wholeUnits_mono {k l : Nat} (h : k ≤ l) : wholeUnits k ≤ wholeUnits l :=
  nearest_mono (Nat.mul_le_mul_right one h)

theorem one_eq : one = 2 ^ 1074 := by
  unfold one
  generalize 1074 = e
  rfl

theorem one_pos : 0 < one := by
  unfold one
  generalize 1074 = e
  exact Nat.two_pow_pos e

theorem wholeUnits_of_lt {k : Nat} (h : k < 2 ^ 53) : wholeUnits k = k * one := by
  rw [wholeUnits, one_eq]
  exact nearest_mul_two_pow h 1074

theorem wholeUnits_two_pow (e : Nat) : wholeUnits (2 ^ e) = 2 ^ e * one := by
  have hone : 2 ^ e * one = 1 * 2 ^ (e + 1074) := by rw [one_eq, Nat.one_mul, Nat.pow_add]
  rw [wholeUnits, hone]
  exact nearest_mul_two_pow (by decide) _

/-- No whole number of 53 bits is rounded to the same as another one. -/
theorem wholeUnits_inj {k l : Nat} (hk : k < 2 ^ 53) (h : wholeUnits k = wholeUnits l) : k = l := by
  rw [wholeUnits_of_lt hk] at h
  rcases Nat.lt_or_ge l (2 ^ 53) with hl | hl
  · rw [wholeUnits_of_lt hl] at h
    exact Nat.eq_of_mul_eq_mul_right one_pos h
  · have hmono := wholeUnits_mono hl
    rw [wholeUnits_two_pow, ← h] at hmono
    have hle : 2 ^ 53 ≤ k := Nat.le_of_mul_le_mul_right hmono one_pos
    omega

theorem wholeUnits_pos {k : Nat} (h : 0 < k) : 0 < wholeUnits k :=
  calc 0 < one := one_pos
    _ = wholeUnits (2 ^ 0) := by rw [wholeUnits_two_pow, Nat.pow_zero, Nat.one_mul]
    _ ≤ wholeUnits k := wholeUnits_mono h

/-- The value to which an integer is rounded, in units. -/
def wholeSigned (n : Int) : Int :=
  if n < 0 then -(wholeUnits n.natAbs : Int) else wholeUnits n.natAbs

theorem wholeSigned_mono {a b : Int} (h : a ≤ b) : wholeSigned a ≤ wholeSigned b := by
  rw [wholeSigned, wholeSigned]
  split
  · split
    · have hmono : wholeUnits b.natAbs ≤ wholeUnits a.natAbs := wholeUnits_mono (by omega)
      omega
    · omega
  · have hmono : wholeUnits a.natAbs ≤ wholeUnits b.natAbs := wholeUnits_mono (by omega)
    rw [if_neg (by omega)]
    omega

theorem wholeSigned_neg_iff (n : Int) : wholeSigned n < 0 ↔ n < 0 := by
  rw [wholeSigned]
  split
  · rename_i hn
    have hpos : 0 < wholeUnits n.natAbs := wholeUnits_pos (by omega)
    omega
  · omega

theorem natAbs_wholeSigned (n : Int) : (wholeSigned n).natAbs = wholeUnits n.natAbs := by
  rw [wholeSigned]
  split <;> omega

theorem wholeSigned_inj {a b : Int} (ha : a.natAbs < 2 ^ 53) (h : wholeSigned a = wholeSigned b) :
    a = b := by
  have hsign : a < 0 ↔ b < 0 := by rw [← wholeSigned_neg_iff, h, wholeSigned_neg_iff]
  have habs : a.natAbs = b.natAbs := by
    refine wholeUnits_inj ha ?_
    rw [← natAbs_wholeSigned, h, natAbs_wholeSigned]
  omega

/-! ## Words -/

theorem mul_two_pow_lt {k d e f : Nat} (h : k ≤ 2 ^ d) (hf : d + e < f) : k * 2 ^ e < 2 ^ f :=
  calc k * 2 ^ e ≤ 2 ^ d * 2 ^ e := Nat.mul_le_mul_right _ h
    _ = 2 ^ (d + e) := (Nat.pow_add 2 d e).symm
    _ < 2 ^ f := Nat.pow_lt_pow_right Nat.one_lt_two hf

theorem mul_one_lt {k : Nat} (h : k ≤ 2 ^ 65) : k * one < 2 ^ 2097 := by
  rw [one_eq]
  apply mul_two_pow_lt h
  decide

theorem natAbs_le_of_fits {n : Int} (h : FitsWord n) : n.natAbs ≤ 2 ^ 64 := by
  simp only [FitsWord] at h
  omega

theorem wholeUnits_le {n : Int} (h : FitsWord n) : wholeUnits n.natAbs ≤ 2 ^ 64 * one :=
  calc wholeUnits n.natAbs ≤ wholeUnits (2 ^ 64) := wholeUnits_mono (natAbs_le_of_fits h)
    _ = 2 ^ 64 * one := wholeUnits_two_pow 64

theorem ofUnits?_of_representable (negative : Bool) {units : Nat} (h : Representable units) :
    ofUnits? negative units = some ⟨negative, units, h⟩ :=
  dif_pos h

theorem wholeUnits_representable {n : Int} (h : FitsWord n) :
    Representable (wholeUnits n.natAbs) :=
  nearest_representable (mul_one_lt (Nat.le_trans (natAbs_le_of_fits h) (by decide)))

theorem ofInt?_fits {n : Int} (h : FitsWord n) :
    ofInt? n = some ⟨decide (n < 0), wholeUnits n.natAbs, wholeUnits_representable h⟩ := by
  rw [ofInt?, ofQuotient?, ← wholeUnits, ofUnits?_of_representable]

@[simp] theorem signed_neg (x : Binary64) : x.neg.signed = -x.signed := by
  cases x with
  | mk negative units _ => cases negative <;> simp [neg, signed]

/-- A sum is lost only if it is beyond the greatest number. -/
theorem add?_isSome {x y : Binary64} (h : (x.signed + y.signed).natAbs < 2 ^ 2097) :
    ∃ z, add? x y = some z := by
  simp only [add?]
  split
  · exact ⟨_, rfl⟩
  · exact ⟨_, ofUnits?_of_representable _ (nearest_representable h)⟩

end Binary64

/-- The integers of the signed range. -/
def FitsSigned (n : Int) : Prop :=
  -0x8000000000000000 ≤ n ∧ n < 0x8000000000000000

instance (n : Int) : Decidable (FitsSigned n) := by
  unfold FitsSigned; infer_instance

theorem FitsSigned.fits {n : Int} (h : FitsSigned n) : FitsWord n :=
  ⟨h.1, Int.lt_trans h.2 (by decide)⟩

namespace Number

open Binary64

section

variable {a b : Int} (ha : FitsWord a) (hb : FitsWord b)

theorem toDouble_int : (Number.int a ha).toDouble =
    ⟨decide (a < 0), wholeUnits a.natAbs, wholeUnits_representable ha⟩ := by
  rw [toDouble, ofInt?_fits ha, Option.getD_some]

theorem signed_toDouble : (Number.int a ha).toDouble.signed = wholeSigned a := by
  rw [toDouble_int, wholeSigned, signed]
  simp only [decide_eq_true_eq]

theorem toDouble_inj : (Number.int a ha).toDouble = (Number.int b hb).toDouble ↔
    wholeSigned a = wholeSigned b := by
  constructor
  · intro h
    rw [← signed_toDouble ha, h, signed_toDouble hb]
  · intro h
    have hsign : (a < 0) = (b < 0) := by
      rw [eq_iff_iff, ← wholeSigned_neg_iff, h, wholeSigned_neg_iff]
    have habs : wholeUnits a.natAbs = wholeUnits b.natAbs := by
      rw [← natAbs_wholeSigned, h, natAbs_wholeSigned]
    simp only [toDouble_int, hsign, habs]

/-- Two integers compare as they do, unless they are rounded to the same number. -/
theorem compare_int : (Number.int a ha).compare (.int b hb) =
    if (Number.int a ha).toDouble = (Number.int b hb).toDouble then .eq else Ord.compare a b := by
  rw [Number.compare, Binary64.compare, signed_toDouble, signed_toDouble]
  split
  · rename_i heq
    rw [Int.compare_eq_eq]
    exact (toDouble_inj ha hb).mp heq
  · rename_i hne
    rw [toDouble_inj] at hne
    rcases Int.lt_trichotomy a b with hlt | rfl | hgt
    · have hle := wholeSigned_mono (Int.le_of_lt hlt)
      rw [Int.compare_eq_lt.mpr hlt, Int.compare_eq_lt]
      omega
    · exact absurd rfl hne
    · have hle := wholeSigned_mono (Int.le_of_lt hgt)
      rw [Int.compare_eq_gt.mpr hgt, Int.compare_eq_gt]
      omega

theorem natAbs_signed_le : (Number.int a ha).toDouble.signed.natAbs ≤ 2 ^ 64 * one := by
  rw [signed_toDouble, natAbs_wholeSigned]
  exact wholeUnits_le ha

theorem add?_toDouble :
    ∃ z, Binary64.add? (Number.int a ha).toDouble (Number.int b hb).toDouble = some z := by
  apply add?_isSome
  have hx := natAbs_signed_le ha
  have hy := natAbs_signed_le hb
  have hone : 2 ^ 65 * one < 2 ^ 2097 := mul_one_lt (Nat.le_refl _)
  omega

theorem sub?_toDouble :
    ∃ z, Binary64.sub? (Number.int a ha).toDouble (Number.int b hb).toDouble = some z := by
  rw [Binary64.sub?]
  apply add?_isSome
  rw [signed_neg]
  have hx := natAbs_signed_le ha
  have hy := natAbs_signed_le hb
  have hone : 2 ^ 65 * one < 2 ^ 2097 := mul_one_lt (Nat.le_refl _)
  omega

theorem signed?_int : (Number.int a ha).signed? = if FitsSigned a then some a else none := by
  simp only [signed?, FitsSigned, ha.1, true_and]

theorem ofSigned?_eq (n : Int) :
    ofSigned? n = if h : FitsSigned n then some (.int n h.fits) else none := by
  rw [ofSigned?]
  by_cases h : FitsSigned n
  · rw [dif_pos h]
    exact (if_pos h).trans (dif_pos h.fits)
  · rw [dif_neg h]
    exact if_neg h

/-- Operands and result in the signed range. -/
def AllSigned (exact : Int → Int → Int) (a b : Int) : Prop :=
  FitsSigned a ∧ FitsSigned b ∧ FitsSigned (exact a b)

variable {exact : Int → Int → Int} {rounded : Binary64 → Binary64 → Option Binary64}

theorem combine_signed (h : AllSigned exact a b) :
    combine exact rounded (.int a ha) (.int b hb) = some (.int (exact a b) h.2.2.fits) := by
  simp only [combine, signed?_int, if_pos h.1, if_pos h.2.1, ofSigned?_eq, dif_pos h.2.2]

theorem combine_wide (h : ¬ AllSigned exact a b) : combine exact rounded (.int a ha) (.int b hb) =
    (rounded (Number.int a ha).toDouble (Number.int b hb).toDouble).map .double := by
  simp only [combine, signed?_int]
  by_cases hx : FitsSigned a
  · by_cases hy : FitsSigned b
    · have hr : ¬ FitsSigned (exact a b) := fun hr => h ⟨hx, hy, hr⟩
      simp only [if_pos hx, if_pos hy, ofSigned?_eq, dif_neg hr]
    · simp only [if_pos hx, if_neg hy]
  · simp only [if_neg hx]

theorem neg_signed (hx : FitsSigned a) (hr : FitsSigned (-a)) :
    (Number.int a ha).neg = .int (-a) hr.fits := by
  simp only [neg, signed?_int, if_pos hx, Option.bind_some, ofSigned?_eq, dif_pos hr]

theorem neg_wide (h : ¬ (FitsSigned a ∧ FitsSigned (-a))) :
    (Number.int a ha).neg = .double (Number.int a ha).toDouble.neg := by
  simp only [neg, signed?_int]
  by_cases hx : FitsSigned a
  · have hr : ¬ FitsSigned (-a) := fun hr => h ⟨hx, hr⟩
    simp only [if_pos hx, Option.bind_some, ofSigned?_eq, dif_neg hr]
  · simp only [if_neg hx, Option.bind_none]

end

end Number
end RequestFlow
