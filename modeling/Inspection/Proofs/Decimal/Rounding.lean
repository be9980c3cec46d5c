import Inspection.Decimal.Binary
import Mathlib.Algebra.Order.Ring.Int

/-!
# Decimal — The nearest number of a format

A format has the numbers whose significand fits its precision, counted in its least positive number.
Between two of them that follow each other it has none, and rounding takes the one that is nearer.
What else is said of rounding follows from that alone: it keeps the order, and it leaves the numbers
of the format as they are.

* `Format.Keeps`, `Format.IsNearest`: the numbers of a format, and which of them is nearest.
* `isNearest_rounded`: rounding takes the nearest.
* `rounded_le_iff`: integers that are rounded keep their order, but may become the same.
* `rounded_eq_iff_of_lt`, `natAbs_sub_le_of_rounded_eq`: they do not if one of them fits the
  precision, and they are close to each other if they do.
* `ofDecimal?_zero`: an integer in digits reads as the rounded one.
-/

namespace Inspection.Decimal

/-! ### The nearest multiple -/

theorem nearest_cases (num : Nat) {den : Nat} (hden : 0 < den) :
    (nearest num den = num / den ∧ 2 * (num % den) ≤ den) ∨
      (nearest num den = num / den + 1 ∧ den ≤ 2 * (num % den)) := by
  have := Nat.mod_lt num hden
  simp only [nearest]
  split
  · exact .inl ⟨rfl, by omega⟩
  · split
    · exact .inr ⟨rfl, by omega⟩
    · split
      · exact .inl ⟨rfl, by omega⟩
      · exact .inr ⟨rfl, by omega⟩

theorem bitLength_le_iff {n k : Nat} : bitLength n ≤ k ↔ n < 2 ^ k := by
  rw [bitLength]
  split
  · rename_i h
    simp only [h, Nat.zero_le, Nat.two_pow_pos]
  · rename_i h
    rw [Nat.succ_le_iff, Nat.log2_lt h]

namespace Format

variable {f : Format} {i j r t z : Int} {n : Nat}

/-- The format has the number of so many units: its significand fits. -/
def Keeps (f : Format) (units : Int) : Prop :=
  ∃ m e, m < 2 ^ f.precision ∧ units.natAbs = m * 2 ^ e

/-- No number of the format is nearer to `x` units than `r` units are. -/
structure IsNearest (f : Format) (x r : Int) : Prop where
  keeps : f.Keeps r
  nearest : ∀ z, f.Keeps z → (r - x).natAbs ≤ (z - x).natAbs

/-- The units of the number that an integer rounds to. -/
def rounded (f : Format) (i : Int) : Int :=
  if i < 0 then -(f.round (i.natAbs * 2 ^ f.lowest) 1 : Int)
  else f.round (i.natAbs * 2 ^ f.lowest) 1

/-! ### Numbers of a format -/

theorem Keeps.neg (h : f.Keeps i) : f.Keeps (-i) := by
  rwa [Keeps, Int.natAbs_neg]

/-- The significand may be the first that does not fit: it is the power of two that follows. -/
theorem keeps_of_natAbs (hf : 0 < f.precision) {m e : Nat} (hm : m ≤ 2 ^ f.precision)
    (hi : i.natAbs = m * 2 ^ e) : f.Keeps i := by
  obtain hm | rfl := Nat.lt_or_eq_of_le hm
  · exact ⟨m, e, hm, hi⟩
  · exact ⟨1, f.precision + e, Nat.one_lt_two_pow (by omega),
      by rw [hi, Nat.pow_add, Nat.one_mul]⟩

theorem spacing_eq (f : Format) (n : Nat) :
    f.spacing n = 2 ^ (bitLength n - f.precision) := rfl

theorem spacing_pos (f : Format) (n : Nat) : 0 < f.spacing n := Nat.two_pow_pos _

theorem bitLength_le_bitLength {m n : Nat} (h : m ≤ n) : bitLength m ≤ bitLength n :=
  bitLength_le_iff.2 (Nat.lt_of_le_of_lt h (bitLength_le_iff.1 (Nat.le_refl _)))

theorem spacing_dvd_spacing {m : Nat} (h : m ≤ n) : f.spacing m ∣ f.spacing n :=
  Nat.pow_dvd_pow 2 (Nat.sub_le_sub_right (bitLength_le_bitLength h) _)

/-- A number of the format is a multiple of its distance to the next. -/
theorem Keeps.spacing_dvd (h : f.Keeps (n : Int)) : f.spacing n ∣ n := by
  obtain ⟨m, e, hm, hn⟩ := h
  rw [Int.natAbs_natCast] at hn
  have hlength : bitLength n ≤ f.precision + e := by
    rw [bitLength_le_iff, hn, Nat.pow_add]
    exact Nat.mul_lt_mul_of_pos_right hm (Nat.two_pow_pos e)
  have hdvd : 2 ^ (bitLength n - f.precision) ∣ 2 ^ e := Nat.pow_dvd_pow 2 (by omega)
  have hself : 2 ^ e ∣ n := hn ▸ Nat.dvd_mul_left ..
  exact Nat.dvd_trans hdvd hself

theorem div_spacing_lt (f : Format) (n : Nat) : n / f.spacing n < 2 ^ f.precision := by
  rw [Nat.div_lt_iff_lt_mul (spacing_pos f n), spacing_eq, ← Nat.pow_add, ← bitLength_le_iff]
  omega

/-- The multiple of the spacing below a number has as many digits: where the spacing is not one,
the number has more digits than fit, and its first one stays. -/
theorem spacing_below (hf : 0 < f.precision) (n : Nat) :
    f.spacing (n / f.spacing n * f.spacing n) = f.spacing n := by
  obtain hfits | hmore := le_or_gt (bitLength n) f.precision
  · have hone : f.spacing n = 1 := by rw [spacing_eq, Nat.sub_eq_zero_of_le hfits, Nat.pow_zero]
    rw [hone, Nat.div_one, Nat.mul_one, hone]
  · have hfirst : 2 ^ (bitLength n - 1) ≤ n := by
      rw [← Nat.not_lt, ← bitLength_le_iff]
      omega
    have hbelow : 2 ^ (bitLength n - 1) ≤ n / f.spacing n * f.spacing n := by
      have hsplit : 2 ^ (bitLength n - 1) = 2 ^ (f.precision - 1) * f.spacing n := by
        rw [spacing_eq, ← Nat.pow_add]
        congr 1
        omega
      rw [hsplit] at hfirst ⊢
      exact Nat.mul_le_mul_right _ ((Nat.le_div_iff_mul_le (spacing_pos f n)).2 hfirst)
    have hlength : bitLength (n / f.spacing n * f.spacing n) = bitLength n := by
      have hle := bitLength_le_bitLength (Nat.div_mul_le_self n (f.spacing n))
      have hnot := mt bitLength_le_iff.1 (Nat.not_lt.2 hbelow)
      omega
    rw [spacing_eq f (_ * _), hlength, ← spacing_eq]

/-- **A format has no number between two that follow each other.** -/
theorem Keeps.le_or_le (hf : 0 < f.precision) (h : f.Keeps z) (n : Nat) :
    z ≤ (n / f.spacing n * f.spacing n : Nat) ∨
      (n / f.spacing n * f.spacing n + f.spacing n : Nat) ≤ z := by
  obtain hle | hlt := le_or_gt z (n / f.spacing n * f.spacing n : Nat)
  · exact .inl hle
  · obtain ⟨m, rfl⟩ := Int.eq_ofNat_of_zero_le (show 0 ≤ z by omega)
    have hdvd : f.spacing n ∣ m := by
      rw [← spacing_below hf n]
      exact Nat.dvd_trans (spacing_dvd_spacing (Int.ofNat_lt.1 hlt).le) h.spacing_dvd
    obtain ⟨k, rfl⟩ := hdvd
    rw [Nat.mul_comm (f.spacing n)] at hlt ⊢
    have hk := Nat.lt_of_mul_lt_mul_right (Int.ofNat_lt.1 hlt)
    rw [← Nat.succ_mul]
    exact .inr (Int.ofNat_le.2 (Nat.mul_le_mul_right _ hk))

/-! ### The nearest of them -/

namespace IsNearest

theorem neg (h : f.IsNearest i r) : f.IsNearest (-i) (-r) := by
  refine ⟨h.keeps.neg, fun z hz => ?_⟩
  have := h.nearest (-z) hz.neg
  omega

/-- Rounding keeps the order. -/
theorem le_of_lt (hr : f.IsNearest i r) (ht : f.IsNearest j t) (h : i < j) : r ≤ t := by
  have := hr.nearest t ht.keeps
  have := ht.nearest r hr.keeps
  omega

/-- A number of the format stays. -/
theorem eq_of_keeps (h : f.IsNearest i r) (hi : f.Keeps i) : r = i := by
  have := h.nearest i hi
  omega

end IsNearest

theorem isNearest_round (hf : 0 < f.precision) (n : Nat) :
    f.IsNearest n (f.round n 1) := by
  have hn := Nat.div_add_mod' n (f.spacing n)
  have hrest := Nat.mod_lt n (spacing_pos f n)
  have hdigits := div_spacing_lt f n
  rw [round, Nat.div_one, Nat.one_mul]
  obtain ⟨hbelow, hhalf⟩ | ⟨habove, hhalf⟩ := nearest_cases n (spacing_pos f n)
  · rw [hbelow]
    refine ⟨keeps_of_natAbs hf hdigits.le (Int.natAbs_natCast _), fun z hz => ?_⟩
    have := hz.le_or_le hf n
    omega
  · rw [habove]
    refine ⟨keeps_of_natAbs hf hdigits (Int.natAbs_natCast _), fun z hz => ?_⟩
    have := hz.le_or_le hf n
    rw [Nat.succ_mul]
    omega

/-- A power of two stays, so nothing below it comes out above it. -/
theorem round_le_two_pow (hf : 0 < f.precision) {k : Nat} (hn : n < 2 ^ k) :
    f.round n 1 ≤ 2 ^ k := by
  have hpower : f.IsNearest ((2 ^ k : Nat) : Int) (f.round (2 ^ k) 1) := isNearest_round hf _
  have hkeeps : f.Keeps ((2 ^ k : Nat) : Int) :=
    keeps_of_natAbs hf Nat.one_le_two_pow (by rw [Int.natAbs_natCast, Nat.one_mul])
  have hle := (isNearest_round hf n).le_of_lt hpower (Int.ofNat_lt.2 hn)
  rw [hpower.eq_of_keeps hkeeps] at hle
  exact Int.ofNat_le.1 hle

/-- Half the distance to the next is the most that is lost. -/
theorem natAbs_round_sub_le (f : Format) (n : Nat) :
    2 * ((f.round n 1 : Int) - n).natAbs ≤ f.spacing n := by
  have hn := Nat.div_add_mod' n (f.spacing n)
  have hrest := Nat.mod_lt n (spacing_pos f n)
  rw [round, Nat.div_one, Nat.one_mul]
  obtain ⟨hbelow, hhalf⟩ | ⟨habove, hhalf⟩ := nearest_cases n (spacing_pos f n)
  · rw [hbelow]
    omega
  · rw [habove, Nat.succ_mul (n / f.spacing n)]
    omega

/-! ### Integers -/

theorem rounded_natCast (f : Format) (n : Nat) :
    f.rounded n = f.round (n * 2 ^ f.lowest) 1 := by
  rw [rounded, if_neg (by omega), Int.natAbs_natCast]

@[simp]
theorem round_zero (f : Format) : f.round 0 1 = 0 := by
  simp [round, nearest]

theorem rounded_neg (f : Format) (i : Int) : f.rounded (-i) = -f.rounded i := by
  obtain hneg | rfl | hpos := Int.lt_trichotomy i 0
  · rw [rounded, rounded, if_neg (by omega), if_pos hneg, Int.natAbs_neg, Int.neg_neg]
  · simp [rounded]
  · rw [rounded, rounded, if_pos (by omega), if_neg (by omega), Int.natAbs_neg]

/-- **An integer rounds to the nearest number.** -/
theorem isNearest_rounded (hf : 0 < f.precision) (i : Int) :
    f.IsNearest (i * 2 ^ f.lowest) (f.rounded i) := by
  obtain ⟨n, rfl | rfl⟩ := i.eq_nat_or_neg
  · rw [rounded_natCast]
    exact isNearest_round hf (n * 2 ^ f.lowest)
  · rw [rounded_neg, rounded_natCast, Int.neg_mul]
    exact (isNearest_round hf (n * 2 ^ f.lowest)).neg

theorem mul_lt_mul_lowest (h : i < j) (f : Format) : i * 2 ^ f.lowest < j * 2 ^ f.lowest :=
  Int.mul_lt_mul_of_pos_right h (Int.pow_pos (by decide))

theorem rounded_le_iff (hf : 0 < f.precision) :
    f.rounded i ≤ f.rounded j ↔ i ≤ j ∨ f.rounded i = f.rounded j := by
  have horder {i j : Int} (h : i < j) : f.rounded i ≤ f.rounded j :=
    (isNearest_rounded hf i).le_of_lt (isNearest_rounded hf j) (mul_lt_mul_lowest h f)
  constructor
  · intro h
    obtain hle | hlt := le_or_gt i j
    · exact .inl hle
    · exact .inr (Int.le_antisymm h (horder hlt))
  · rintro (hle | heq)
    · obtain hlt | rfl := Int.lt_or_eq_of_le hle
      · exact horder hlt
      · exact Int.le_refl _
    · exact Int.le_of_eq heq

theorem keeps_integer (hf : 0 < f.precision) (hi : i.natAbs ≤ 2 ^ f.precision) :
    f.Keeps (i * 2 ^ f.lowest) :=
  keeps_of_natAbs hf hi (by rw [Int.natAbs_mul, Int.natAbs_pow]; rfl)

/-- An integer that fits is the only one that rounds to it: its two neighbours are in the format as
well, and one of them would be nearer. -/
theorem rounded_eq_iff_of_lt (hf : 0 < f.precision) (hi : i.natAbs < 2 ^ f.precision) :
    f.rounded i = f.rounded j ↔ i = j := by
  refine ⟨fun h => ?_, fun h => h ▸ rfl⟩
  have hself := (isNearest_rounded hf i).eq_of_keeps (keeps_integer hf hi.le)
  have hnear := (isNearest_rounded hf j).nearest
  rw [← h, hself] at hnear
  obtain hlt | heq | hgt := Int.lt_trichotomy i j
  · have := hnear _ (keeps_integer hf (i := i + 1) (by omega))
    have := mul_lt_mul_lowest (show i < i + 1 by omega) f
    have : (i + 1) * 2 ^ f.lowest ≤ j * 2 ^ f.lowest :=
      Int.mul_le_mul_of_nonneg_right hlt (Int.pow_nonneg (by decide))
    omega
  · exact heq
  · have := hnear _ (keeps_integer hf (i := i - 1) (by omega))
    have := mul_lt_mul_lowest (show i - 1 < i by omega) f
    have : j * 2 ^ f.lowest ≤ (i - 1) * 2 ^ f.lowest :=
      Int.mul_le_mul_of_nonneg_right (by omega) (Int.pow_nonneg (by decide))
    omega

/-- What an integer loses when it has more digits than fit. -/
theorem natAbs_rounded_sub_le {k : Nat} (hi : i.natAbs < 2 ^ k) (hk : f.precision ≤ k) :
    2 * (f.rounded i - i * 2 ^ f.lowest).natAbs ≤ 2 ^ (k - f.precision) * 2 ^ f.lowest := by
  have hround := natAbs_round_sub_le f (i.natAbs * 2 ^ f.lowest)
  have hspacing : f.spacing (i.natAbs * 2 ^ f.lowest) ≤ 2 ^ (k - f.precision) * 2 ^ f.lowest := by
    have hlength : bitLength (i.natAbs * 2 ^ f.lowest) ≤ k + f.lowest := by
      rw [bitLength_le_iff, Nat.pow_add]
      exact Nat.mul_lt_mul_of_pos_right hi (Nat.two_pow_pos _)
    rw [spacing_eq, ← Nat.pow_add]
    exact Nat.pow_le_pow_right (by decide) (by omega)
  refine Nat.le_trans ?_ (hround.trans hspacing)
  obtain ⟨n, rfl | rfl⟩ := i.eq_nat_or_neg
  · rw [rounded_natCast, Int.natAbs_natCast]
    exact Nat.le_refl _
  · have hsign (a b : Int) : (-a - -b).natAbs = (a - b).natAbs := by omega
    rw [rounded_neg, rounded_natCast, Int.neg_mul, hsign, Int.natAbs_neg, Int.natAbs_natCast]
    exact Nat.le_refl _

/-- **Integers that become the same are close to each other.** -/
theorem natAbs_sub_le_of_rounded_eq {k : Nat} (hi : i.natAbs < 2 ^ k) (hj : j.natAbs < 2 ^ k)
    (hk : f.precision ≤ k) (h : f.rounded i = f.rounded j) :
    (i - j).natAbs ≤ 2 ^ (k - f.precision) := by
  have hlost := natAbs_rounded_sub_le hi hk
  have hlost' := natAbs_rounded_sub_le hj hk
  have hsum : (i - j).natAbs * 2 ^ f.lowest ≤ 2 ^ (k - f.precision) * 2 ^ f.lowest := by
    have hsplit : ((i - j) * 2 ^ f.lowest).natAbs = (i - j).natAbs * 2 ^ f.lowest := by
      rw [Int.natAbs_mul, Int.natAbs_pow]
      rfl
    rw [← hsplit, Int.sub_mul]
    omega
  exact Nat.le_of_mul_le_mul_right hsum (Nat.two_pow_pos _)

/-- A natural number below a power of two that the format holds is itself not too large for it. -/
theorem ofDecimal?_zero (hf : 0 < f.precision) {k : Nat} (hn : n < 2 ^ k) (hk : k < f.top) :
    f.ofDecimal? n 0 = some (f.round (n * 2 ^ f.lowest) 1) := by
  have hten : n < 10 ^ f.top :=
    hn.trans_le ((Nat.pow_le_pow_right (by decide) hk.le).trans (Nat.pow_le_pow_left (by decide) _))
  have hdigits : (Nat.toDigits 10 n).length ≤ f.top :=
    (Nat.length_toDigits_le_iff (by decide) (by omega)).2 hten
  have hpositive : 0 < (Nat.toDigits 10 n).length := Nat.length_toDigits_pos
  have hbound : f.round (n * 2 ^ f.lowest) 1 ≤ 2 ^ (k + f.lowest) := by
    refine round_le_two_pow hf ?_
    rw [Nat.pow_add]
    exact Nat.mul_lt_mul_of_pos_right hn (Nat.two_pow_pos _)
  have hfits : f.overflows (f.round (n * 2 ^ f.lowest) 1) = false := by
    rw [overflows, decide_eq_false_iff_not, Nat.not_le]
    exact hbound.trans_lt (Nat.pow_lt_pow_right (by decide) (by omega))
  obtain rfl | hzero := Nat.eq_zero_or_pos n
  · rw [ofDecimal?, if_pos rfl, Nat.zero_mul, round_zero]
  · have hup : ¬(f.top : Int) < (Nat.toDigits 10 n).length + 0 := by omega
    have hlow : ¬((Nat.toDigits 10 n).length + 0 : Int) < -(f.lowest : Int) := by omega
    simp only [ofDecimal?, if_neg hzero.ne', if_neg hup, if_neg hlow]
    simp [hfits]

end Format

end Inspection.Decimal
