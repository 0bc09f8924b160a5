import Mathlib.Data.Nat.Log
import Mathlib.Tactic.Ring
import SettingText.Number.Binary64

/-!
Whole numbers of less than 54 bits are held exactly: rounding gives back a quotient that is such a
number, and sums that stay below the bound are exact.
-/

namespace SettingText.Binary64

/-- Every whole number below this one has a significand of its own. -/
def wholeLimit : Nat := 2 ^ 53

/-- The number is this whole number, and its sign bit is not set. -/
structure IsWhole (x : Binary64) (n : Nat) : Prop where
  isNegative_eq : x.isNegative = false
  exists_ratio : ∃ den, 0 < den ∧ x.toRatio? = some (Int.ofNat (n * den), den)

section Rounding

variable {n den : Nat}

theorem roundHalfEven_mul (n : Nat) (hden : 0 < den) : roundHalfEven (n * den) den = n := by
  simp [roundHalfEven, Nat.mul_mod_left, Nat.mul_div_cancel n hden, hden]

/-- A whole quotient in units of a power of two. -/
theorem quotient_inUnits (n : Nat) (hden : 0 < den) (e : Int) :
    (inUnits (n * den) den e).1 / (inUnits (n * den) den e).2 =
      if 0 ≤ e then n / 2 ^ e.toNat else n * 2 ^ (-e).toNat := by
  rw [inUnits]
  split
  · rw [Nat.pow_eq, Nat.mul_comm n, Nat.mul_div_mul_left _ _ hden]
  · rw [Nat.pow_eq, Nat.mul_right_comm, Nat.mul_div_cancel _ hden]

theorem log2_mul (hn : n ≠ 0) (hden : den ≠ 0) :
    n.log2 + den.log2 ≤ (n * den).log2 ∧ (n * den).log2 ≤ n.log2 + den.log2 + 1 := by
  have hne : n * den ≠ 0 := Nat.mul_ne_zero hn hden
  constructor
  · rw [Nat.le_log2 hne, Nat.pow_add]
    exact Nat.mul_le_mul (Nat.log2_self_le hn) (Nat.log2_self_le hden)
  · rw [← Nat.lt_succ_iff, Nat.log2_lt hne,
      show (n.log2 + den.log2 + 1).succ = (n.log2 + 1) + (den.log2 + 1) by omega, Nat.pow_add]
    exact Nat.mul_lt_mul'' Nat.lt_log2_self Nat.lt_log2_self

theorem log2_le_of_lt (hn : n < wholeLimit) : n.log2 ≤ 52 := by
  obtain rfl | hne := Nat.eq_zero_or_pos n
  · decide
  · exact Nat.lt_succ_iff.mp ((Nat.log2_lt (Nat.ne_of_gt hne)).mpr hn)

/-- A whole quotient that is brought to 53 bits. -/
theorem quotient_fitted (n : Nat) (hden : 0 < den) {e : Int} (he : e ≤ 0) :
    (inUnits (n * den) den e).1 / (inUnits (n * den) den e).2 = n * 2 ^ (-e).toNat := by
  rw [quotient_inUnits n hden]
  split
  · have hzero : e = 0 := by omega
    simp [hzero]
  · rfl

theorem exponentOf_eq (num den : Nat) (guess : Int)
    (hguess : guess = Int.ofNat num.log2 - Int.ofNat den.log2 - 52) :
    exponentOf num den = max minExponent
      (if (inUnits num den guess).1 / (inUnits num den guess).2 < 2 ^ 52 then guess - 1
        else guess) := by
  subst hguess
  rfl

/-- The exponent at which a whole quotient fills a significand. -/
theorem exponentOf_mul (hne : n ≠ 0) (hn : n < wholeLimit) (hden : 0 < den) :
    exponentOf (n * den) den = Int.ofNat n.log2 - 52 := by
  have hsmall := log2_le_of_lt hn
  obtain ⟨hlow, hhigh⟩ := log2_mul hne (Nat.ne_of_gt hden)
  simp only [Int.ofNat_eq_natCast]
  -- the guess from the logarithms is right, or too great by one
  obtain hguess | hguess : (n * den).log2 = n.log2 + den.log2 ∨
      (n * den).log2 = n.log2 + den.log2 + 1 := by omega
  · rw [exponentOf_eq (n * den) den (n.log2 - 52) (by simp [hguess]),
      quotient_fitted n hden (by omega)]
    have hfull : 2 ^ 52 ≤ n * 2 ^ (-((n.log2 : Int) - 52)).toNat := by
      calc 2 ^ 52 = 2 ^ n.log2 * 2 ^ (-((n.log2 : Int) - 52)).toNat := by
            rw [← Nat.pow_add]
            congr 1
            omega
        _ ≤ n * 2 ^ (-((n.log2 : Int) - 52)).toNat :=
            Nat.mul_le_mul_right _ (Nat.log2_self_le hne)
    rw [if_neg (Nat.not_lt.mpr hfull), minExponent]
    omega
  · rw [exponentOf_eq (n * den) den (n.log2 - 51) (by simp [hguess]; omega)]
    have hshort : (inUnits (n * den) den ((n.log2 : Int) - 51)).1 /
        (inUnits (n * den) den ((n.log2 : Int) - 51)).2 < 2 ^ 52 := by
      obtain hlog | hlog : n.log2 = 52 ∨ n.log2 ≤ 51 := by omega
      · rw [quotient_inUnits n hden, hlog]
        exact Nat.div_lt_of_lt_mul hn
      · rw [quotient_fitted n hden (by omega)]
        calc n * 2 ^ (-((n.log2 : Int) - 51)).toNat
            < 2 ^ (n.log2 + 1) * 2 ^ (-((n.log2 : Int) - 51)).toNat :=
              Nat.mul_lt_mul_of_pos_right Nat.lt_log2_self (Nat.two_pow_pos _)
          _ = 2 ^ 52 := by
              rw [← Nat.pow_add]
              congr 1
              omega
    rw [if_pos hshort, minExponent]
    omega

theorem ofRatio_eq_finite {negative : Bool} {num rounded : Nat} {e : Int} (hnum : num ≠ 0)
    (hexponent : exponentOf num den = e)
    (hrounded : roundHalfEven (inUnits num den e).1 (inUnits num den e).2 = rounded)
    (hlt : rounded < 2 ^ 53) (he : e ≤ maxExponent) :
    ofRatio negative num den = finite negative rounded e := by
  have hne : rounded ≠ Nat.pow 2 53 := Nat.ne_of_lt hlt
  simp only [ofRatio, if_neg hnum, hexponent, hrounded, if_neg hne, if_neg (Int.not_lt.mpr he)]

theorem rounded_fitted (n : Nat) (hden : 0 < den) {e : Int} (he : e ≤ 0) :
    roundHalfEven (inUnits (n * den) den e).1 (inUnits (n * den) den e).2 =
      n * 2 ^ (-e).toNat := by
  rw [inUnits]
  split
  · have hzero : e = 0 := by omega
    subst hzero
    simpa using roundHalfEven_mul n hden
  · rw [Nat.pow_eq, Nat.mul_right_comm]
    exact roundHalfEven_mul _ hden

/-- A significand with no bit behind the point. -/
theorem isWhole_finite (n : Nat) {e : Int} (he : e ≤ 0) :
    IsWhole (finite false (n * 2 ^ (-e).toNat) e) n := by
  refine ⟨rfl, ?_⟩
  rw [toRatio?]
  split
  · have hzero : e = 0 := by omega
    exact ⟨1, Nat.one_pos, by simp [hzero]⟩
  · exact ⟨2 ^ (-e).toNat, Nat.two_pow_pos _, rfl⟩

theorem isWhole_zero : IsWhole (zero false) 0 := by
  have h := isWhole_finite 0 (show minExponent ≤ 0 by decide)
  rwa [Nat.zero_mul] at h

/-- A quotient that is a whole number below the limit is not changed by rounding. -/
theorem isWhole_ofRatio (n : Nat) (hn : n < wholeLimit) (hden : 0 < den) :
    IsWhole (ofRatio false (n * den) den) n := by
  obtain rfl | hpos := Nat.eq_zero_or_pos n
  · rw [Nat.zero_mul]
    exact isWhole_zero
  have hne := Nat.ne_of_gt hpos
  have hsmall := log2_le_of_lt hn
  have hlt : n * 2 ^ (-((n.log2 : Int) - 52)).toNat < 2 ^ 53 := by
    calc n * 2 ^ (-((n.log2 : Int) - 52)).toNat
        < 2 ^ (n.log2 + 1) * 2 ^ (-((n.log2 : Int) - 52)).toNat :=
          Nat.mul_lt_mul_of_pos_right Nat.lt_log2_self (Nat.two_pow_pos _)
      _ = 2 ^ 53 := by
          rw [← Nat.pow_add]
          congr 1
          omega
  rw [ofRatio_eq_finite (Nat.mul_ne_zero hne (Nat.ne_of_gt hden)) (exponentOf_mul hne hn hden)
    (rounded_fitted n hden (by simp; omega)) hlt (by simp [maxExponent]; omega)]
  exact isWhole_finite n (by simp; omega)

/-- A decimal number with as many zeros behind its point as it has places. -/
theorem isWhole_ofDecimal (n places : Nat) (hn : n < wholeLimit) :
    IsWhole (ofDecimal false (n * 10 ^ places) (-Int.ofNat places)) n := by
  obtain rfl | hpos := Nat.eq_zero_or_pos n
  · rw [Nat.zero_mul]
    exact isWhole_zero
  have hdigits : n * 10 ^ places ≠ 0 := Nat.ne_of_gt (Nat.mul_pos hpos (Nat.pos_of_neZero _))
  -- the digits outweigh the places, so that no shortcut is taken
  have hsize : 3 * places ≤ (n * 10 ^ places).log2 := by
    rw [Nat.le_log2 hdigits, Nat.pow_mul]
    calc (2 ^ 3) ^ places ≤ 10 ^ places := Nat.pow_le_pow_left (by decide) places
      _ ≤ n * 10 ^ places := Nat.le_mul_of_pos_left _ hpos
  rw [ofDecimal]
  simp only [if_neg hdigits, Int.ofNat_eq_natCast]
  rw [if_neg (by omega), if_neg (by omega)]
  split
  · have hzero : places = 0 := by omega
    subst hzero
    simpa using isWhole_ofRatio n hn Nat.one_pos
  · have hplaces : (- -(places : Int)).toNat = places := by omega
    rw [hplaces]
    exact isWhole_ofRatio n hn (Nat.pos_of_neZero _)

end Rounding

namespace IsWhole

variable {x y : Binary64} {n m : Nat}

theorem exists_finite (hx : x.IsWhole n) :
    ∃ significand exponent, x = finite false significand exponent := by
  obtain ⟨hsign, den, -, hratio⟩ := hx
  cases x with
  | nan => cases hratio
  | infinite negative => cases hratio
  | finite negative significand exponent =>
    cases hsign
    exact ⟨significand, exponent, rfl⟩

/-- A sum below the limit is exact. -/
theorem add (hx : x.IsWhole n) (hy : y.IsWhole m) (h : n + m < wholeLimit) :
    (x.add y).IsWhole (n + m) := by
  obtain ⟨s, e, rfl⟩ := hx.exists_finite
  obtain ⟨s', e', rfl⟩ := hy.exists_finite
  obtain ⟨-, b, hb, hratio⟩ := hx
  obtain ⟨-, d, hd, hratio'⟩ := hy
  have hnum : Int.ofNat (n * b) * Int.ofNat d + Int.ofNat (m * d) * Int.ofNat b =
      Int.ofNat ((n + m) * (b * d)) := by
    simp only [Int.ofNat_eq_natCast]
    push_cast
    ring
  rw [Binary64.add]
  simp only [hratio, hratio', hnum, ofSigned]
  split
  · next hzero =>
    have hsum : n + m = 0 := by
      simpa [Nat.ne_of_gt hb, Nat.ne_of_gt hd] using Int.ofNat.inj hzero
    rw [hsum]
    exact isWhole_zero
  · exact isWhole_ofRatio (n + m) h (Nat.mul_pos hb hd)

theorem truncate?_eq (hx : x.IsWhole n) : x.truncate? = some (Int.ofNat n) := by
  obtain ⟨-, den, hden, hratio⟩ := hx
  rw [truncate?, hratio]
  exact congrArg (some ∘ Int.ofNat) (Nat.mul_div_cancel n hden)

theorem fraction?_eq (hx : x.IsWhole n) : x.fraction? = some (zero false) := by
  obtain ⟨hsign, den, hden, hratio⟩ := hx
  simp [fraction?, hratio, hsign, ofSigned]

end IsWhole

end SettingText.Binary64
