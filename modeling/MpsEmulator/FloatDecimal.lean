/-
**Printing with few digits, and reading back the nearest `float`.**

A number printed with six significant digits and read back as a single-precision number need not be
the number it was; but printing it once more gives the same text.  For the normal range this is
because 24 bits are more than six digits.  Far below it the grid of the floats is coarser than that
of the decimals, and the number read back is the one that was printed.

* `HasDigits`, `IsFloat` — the numbers with so many digits in a base, and the finite floats;
* `Nearest` — a number of a set that is nearest to a given one;
* `roundDigits`, `roundFloat` — rounding to them;
* `nearest_roundDigits`, `nearest_roundFloat` — the results are nearest;
* `print_read_print` — **what is printed for the number read back is what was printed**.
-/

import Mathlib

set_option relaxedAutoImplicit false
set_option autoImplicit false

namespace FloatDecimal

/-! ### Numbers with so many digits -/

/-- The numbers with at most `p` digits in base `b`, at any place before or behind the point. -/
def HasDigits (b p : ℕ) (x : ℚ) : Prop := ∃ m e : ℤ, |m| < b ^ p ∧ x = m * (b : ℚ) ^ e

/-- The finite values of a single-precision float. -/
def IsFloat (x : ℚ) : Prop :=
  ∃ m e : ℤ, |m| < 2 ^ 24 ∧ -149 ≤ e ∧ e ≤ 104 ∧ x = m * (2 : ℚ) ^ e

/-- The largest finite float. -/
def maxFloat : ℚ := (2 ^ 24 - 1) * 2 ^ 104

/-- A number of the set that is nearest to `q`. -/
def Nearest (G : ℚ → Prop) (q d : ℚ) : Prop := G d ∧ ∀ g, G g → |d - q| ≤ |g - q|

variable {b p : ℕ} {x q d : ℚ}

theorem IsFloat.hasDigits (h : IsFloat x) : HasDigits 2 24 x := by
  obtain ⟨m, e, hm, -, -, hx⟩ := h
  exact ⟨m, e, hm, hx⟩

theorem HasDigits.neg (h : HasDigits b p x) : HasDigits b p (-x) := by
  obtain ⟨m, e, hm, rfl⟩ := h
  exact ⟨-m, e, by rwa [abs_neg], by push_cast; ring⟩

theorem IsFloat.neg (h : IsFloat x) : IsFloat (-x) := by
  obtain ⟨m, e, hm, hlow, hhigh, rfl⟩ := h
  exact ⟨-m, e, by rwa [abs_neg], hlow, hhigh, by push_cast; ring⟩

/-- Every power of the base has one digit. -/
theorem hasDigits_zpow (hb : 1 < b) (hp : 0 < p) (n : ℤ) : HasDigits b p ((b : ℚ) ^ n) := by
  refine ⟨1, n, ?_, by simp⟩
  rw [abs_one]
  exact_mod_cast Nat.one_lt_pow hp.ne' hb

/-- A number with `p` digits that is not below `b ^ n` is a multiple of `b ^ (n - p + 1)`. -/
theorem HasDigits.multiple (hb : 1 < b) (h : HasDigits b p x) {n : ℤ} (hn : (b : ℚ) ^ n ≤ |x|) :
    ∃ z : ℤ, x = z * (b : ℚ) ^ (n - p + 1) := by
  obtain ⟨m, e, hm, rfl⟩ := h
  have hb0 : (0 : ℚ) < b := by positivity
  have hb1 : (1 : ℚ) < b := by exact_mod_cast hb
  have hm' : |(m : ℚ)| < (b : ℚ) ^ (p : ℤ) := by
    rw [zpow_natCast]
    exact_mod_cast hm
  have hlt : (b : ℚ) ^ n < (b : ℚ) ^ ((p : ℤ) + e) := by
    calc (b : ℚ) ^ n ≤ |(m : ℚ)| * (b : ℚ) ^ e := by
          rwa [abs_mul, abs_of_pos (zpow_pos hb0 e)] at hn
      _ < (b : ℚ) ^ (p : ℤ) * (b : ℚ) ^ e := by gcongr
      _ = (b : ℚ) ^ ((p : ℤ) + e) := (zpow_add₀ hb0.ne' _ _).symm
  have he : n < p + e := (zpow_lt_zpow_iff_right₀ hb1).1 hlt
  obtain ⟨k, hk⟩ : ∃ k : ℕ, e = k + (n - p + 1) := ⟨(e - (n - p + 1)).toNat, by omega⟩
  refine ⟨m * b ^ k, ?_⟩
  rw [hk, zpow_add₀ hb0.ne', zpow_natCast]
  push_cast
  ring

/-- A power of the base is a multiple of every lower one. -/
theorem zpow_multiple (hb : 1 < b) {n k : ℤ} (h : k ≤ n) :
    ∃ z : ℤ, (b : ℚ) ^ n = z * (b : ℚ) ^ k := by
  have hb0 : (b : ℚ) ≠ 0 := by positivity
  obtain ⟨j, hj⟩ : ∃ j : ℕ, n = j + k := ⟨(n - k).toNat, by omega⟩
  refine ⟨b ^ j, ?_⟩
  rw [hj, zpow_add₀ hb0, zpow_natCast]
  push_cast
  ring

/-- Two multiples that differ, differ by at least the unit. -/
theorem le_abs_sub_of_multiple {s : ℚ} (hs : 0 < s) {y z : ℤ} (h : (y : ℚ) * s ≠ z * s) :
    s ≤ |(y : ℚ) * s - z * s| := by
  have hne : y - z ≠ 0 := by
    intro hyz
    exact h (by rw [sub_eq_zero.1 hyz])
  have hone : (1 : ℚ) ≤ |((y - z : ℤ) : ℚ)| := by exact_mod_cast Int.one_le_abs hne
  calc s = 1 * s := (one_mul s).symm
    _ ≤ |((y - z : ℤ) : ℚ)| * s := by gcongr
    _ = |(y : ℚ) * s - z * s| := by
        rw [← sub_mul, abs_mul, abs_of_pos hs]
        push_cast
        rfl

/-! ### How far apart they are -/

/-- Above a power of the base, the numbers with `p` digits are a unit in the last place apart. -/
theorem le_abs_sub_of_lt (hb : 1 < b) (hp : 0 < p) (hd : HasDigits b p d) {g : ℚ}
    (hg : HasDigits b p g) {e : ℤ} (he : (b : ℚ) ^ e < d) (hne : g ≠ d) :
    (b : ℚ) ^ (e - p + 1) ≤ |g - d| := by
  have hs : (0 : ℚ) < (b : ℚ) ^ (e - p + 1) := by positivity
  obtain ⟨z, hz⟩ := hd.multiple hb (he.le.trans (le_abs_self d))
  rcases le_or_gt ((b : ℚ) ^ e) g with hge | hlt
  · obtain ⟨y, hy⟩ := hg.multiple hb (hge.trans (le_abs_self g))
    rw [hy, hz] at hne ⊢
    exact le_abs_sub_of_multiple hs hne
  -- below the power it is farther away than the power itself
  · obtain ⟨y, hy⟩ := zpow_multiple hb (show e - p + 1 ≤ e by omega)
    have hstep := le_abs_sub_of_multiple hs (y := y) (z := z) (by rw [← hy, ← hz]; exact he.ne)
    rw [← hy, ← hz, abs_of_neg (by linarith)] at hstep
    rw [abs_of_neg (by linarith)]
    linarith

/-- Around a power of the base, they are the next smaller unit apart. -/
theorem le_abs_sub_zpow (hb : 1 < b) (hp : 0 < p) {g : ℚ} (hg : HasDigits b p g) {e : ℤ}
    (hne : g ≠ (b : ℚ) ^ e) : (b : ℚ) ^ (e - p) ≤ |g - (b : ℚ) ^ e| := by
  have hb1 : (1 : ℚ) < b := by exact_mod_cast hb
  have hs : (0 : ℚ) < (b : ℚ) ^ (e - p) := by positivity
  rcases le_or_gt ((b : ℚ) ^ (e - 1)) g with hge | hlt
  · obtain ⟨y, hy⟩ := hg.multiple hb (hge.trans (le_abs_self g))
    obtain ⟨z, hz⟩ := zpow_multiple hb (show e - p ≤ e by omega)
    rw [show e - 1 - p + 1 = e - (p : ℤ) by ring] at hy
    rw [hy, hz] at hne ⊢
    exact le_abs_sub_of_multiple hs hne
  · have hle : (b : ℚ) ^ (e - p) ≤ (b : ℚ) ^ (e - 1) :=
      (zpow_le_zpow_iff_right₀ hb1).2 (by omega)
    have hdouble : (b : ℚ) ^ (e - 1) + (b : ℚ) ^ (e - 1) ≤ (b : ℚ) ^ e := by
      have hsucc : (b : ℚ) ^ e = (b : ℚ) * (b : ℚ) ^ (e - 1) := by
        rw [← zpow_one_add₀ (by positivity)]
        congr 1
        ring
      have htwo : (2 : ℚ) ≤ b := by exact_mod_cast hb
      rw [hsucc]
      nlinarith [zpow_pos (show (0 : ℚ) < b by positivity) (e - 1)]
    rw [abs_of_neg (by linarith)]
    linarith

/-- A member of a set that is closer to `r` than half its distance to every other member is the only
nearest one. -/
theorem Nearest.eq_of_close {G : ℚ → Prop} {r d' : ℚ} (h : Nearest G r d') (hd : G d)
    (hclose : ∀ g, G g → g ≠ d → 2 * |d - r| < |g - d|) : d' = d := by
  by_contra hne
  have hfar := hclose d' h.1 hne
  have hnear := h.2 d hd
  have htriangle : |d' - d| ≤ |d' - r| + |d - r| := by
    rw [abs_sub_comm d r]
    exact abs_sub_le d' r d
  linarith

/-! ### Floats near a decimal -/

/-- Between powers of two in the range of the exponent, cutting off the bits behind the 24th leaves
a float. -/
theorem exists_isFloat_normal (hlow : (2 : ℚ) ^ (-126 : ℤ) ≤ d) (hhigh : d < 2 ^ (128 : ℤ)) :
    ∃ f, IsFloat f ∧ |f - d| < 2 ^ (-23 : ℤ) * d := by
  have hd : 0 < d := lt_of_lt_of_le (by positivity) hlow
  obtain ⟨n, hn, hn'⟩ := exists_mem_Ico_zpow hd (show (1 : ℚ) < 2 by norm_num)
  have hn1 : -127 < n := by
    have : (2 : ℚ) ^ (-126 : ℤ) < 2 ^ (n + 1) := hlow.trans_lt hn'
    have := (zpow_lt_zpow_iff_right₀ (by norm_num : (1 : ℚ) < 2)).1 this
    omega
  have hn2 : n < 128 :=
    (zpow_lt_zpow_iff_right₀ (by norm_num : (1 : ℚ) < 2)).1 (hn.trans_lt hhigh)
  have hs : (0 : ℚ) < 2 ^ (n - 23) := by positivity
  have hunit : (2 : ℚ) ^ (n - 23) ≤ 2 ^ (-23 : ℤ) * d := by
    rw [sub_eq_add_neg, zpow_add₀ (by norm_num), mul_comm]
    gcongr
  have hfloor := Int.floor_le (d / 2 ^ (n - 23))
  have hfloor' := Int.lt_floor_add_one (d / 2 ^ (n - 23))
  rw [le_div_iff₀ hs] at hfloor
  rw [div_lt_iff₀ hs, add_mul, one_mul] at hfloor'
  refine ⟨⌊d / 2 ^ (n - 23)⌋ * 2 ^ (n - 23), ⟨_, n - 23, ?_, by omega, by omega, rfl⟩, ?_⟩
  · have hpos : 0 ≤ ⌊d / 2 ^ (n - 23)⌋ := Int.floor_nonneg.2 (by positivity)
    rw [abs_of_nonneg hpos, Int.floor_lt, div_lt_iff₀ hs]
    have hsucc : (2 : ℚ) ^ (n + 1) = (2 ^ 24 : ℤ) * 2 ^ (n - 23) := by
      rw [show n + 1 = 24 + (n - 23) by ring, zpow_add₀ (by norm_num)]
      norm_num
    exact hsucc ▸ hn'
  · rw [abs_of_nonpos (by linarith)]
    exact lt_of_lt_of_le (by linarith) hunit

/-- Below the normal range the floats are the multiples of a unit. -/
theorem exists_isFloat_subnormal (hlow : 0 ≤ d) (hhigh : d < 2 ^ (-126 : ℤ)) :
    ∃ f, IsFloat f ∧ |f - d| < 2 ^ (-149 : ℤ) := by
  have hs : (0 : ℚ) < 2 ^ (-149 : ℤ) := by positivity
  have hfloor := Int.floor_le (d / 2 ^ (-149 : ℤ))
  have hfloor' := Int.lt_floor_add_one (d / 2 ^ (-149 : ℤ))
  rw [le_div_iff₀ hs] at hfloor
  rw [div_lt_iff₀ hs, add_mul, one_mul] at hfloor'
  refine ⟨⌊d / 2 ^ (-149 : ℤ)⌋ * 2 ^ (-149 : ℤ), ⟨_, -149, ?_, by omega, by omega, rfl⟩, ?_⟩
  · have hpos : 0 ≤ ⌊d / 2 ^ (-149 : ℤ)⌋ := Int.floor_nonneg.2 (by positivity)
    rw [abs_of_nonneg hpos, Int.floor_lt, div_lt_iff₀ hs]
    refine hhigh.trans ?_
    norm_num
  · rw [abs_of_nonpos (by linarith)]
    linarith

/-- From `1e-39` on there is a float so close to a six-digit number that no other six-digit number
is nearer to it than that one. -/
theorem exists_isFloat_close (hd : HasDigits 10 6 d) (hlow : (10 : ℚ) ^ (-39 : ℤ) ≤ d)
    (hhigh : d < 2 ^ (128 : ℤ)) :
    ∃ f, IsFloat f ∧ ∀ g, HasDigits 10 6 g → g ≠ d → 2 * |f - d| < |g - d| := by
  have hd0 : 0 < d := lt_of_lt_of_le (by positivity) hlow
  obtain ⟨e, he, he'⟩ := exists_mem_Ico_zpow hd0 (show (1 : ℚ) < 10 by norm_num)
  have he39 : -39 ≤ e := by
    have h : (10 : ℚ) ^ (-39 : ℤ) < 10 ^ (e + 1) := hlow.trans_lt he'
    have := (zpow_lt_zpow_iff_right₀ (by norm_num : (1 : ℚ) < 10)).1 h
    omega
  have hten : (10 : ℚ) ^ (-44 : ℤ) ≤ 10 ^ (e - 5) :=
    (zpow_le_zpow_iff_right₀ (by norm_num)).2 (by omega)
  have hscale : (10 : ℚ) ^ (e + 1) = 10 ^ 6 * 10 ^ (e - 5) := by
    rw [show e + 1 = 6 + (e - 5) by ring, zpow_add₀ (by norm_num)]
    norm_num
  rcases he.eq_or_lt with heq | hlt
  -- at a power of ten the next smaller decimals are ten times nearer
  · have hfar : ∀ g, HasDigits 10 6 g → g ≠ d → (10 : ℚ) ^ (e - 6) ≤ |g - d| := by
      intro g hg hne
      rw [← heq] at hne ⊢
      exact le_abs_sub_zpow (b := 10) (by norm_num) (by norm_num) hg hne
    suffices ∃ f, IsFloat f ∧ 2 * |f - d| < 10 ^ (e - 6) by
      obtain ⟨f, hf, hclose⟩ := this
      exact ⟨f, hf, fun g hg hne => hclose.trans_le (hfar g hg hne)⟩
    have hscale' : (10 : ℚ) ^ (e - 6) = 10 ^ (-6 : ℤ) * d := by
      rw [← heq, ← zpow_add₀ (by norm_num)]
      congr 1
      ring
    by_cases he' : e = -39
    · refine ⟨713624 * 2 ^ (-149 : ℤ),
        ⟨713624, -149, by norm_num, by omega, by omega, by norm_num⟩, ?_⟩
      rw [← heq, he']
      norm_num [abs_lt, abs_of_pos]
    · rcases lt_or_ge d (2 ^ (-126 : ℤ)) with hsub | hnormal
      · obtain ⟨f, hf, hclose⟩ := exists_isFloat_subnormal hd0.le hsub
        have hten' : (10 : ℚ) ^ (-44 : ℤ) ≤ 10 ^ (e - 6) :=
          (zpow_le_zpow_iff_right₀ (by norm_num)).2 (by omega)
        have hunit : 2 * (2 : ℚ) ^ (-149 : ℤ) < 10 ^ (-44 : ℤ) := by norm_num
        exact ⟨f, hf, by linarith⟩
      · obtain ⟨f, hf, hclose⟩ := exists_isFloat_normal hnormal hhigh
        have hunit : 2 * (2 : ℚ) ^ (-23 : ℤ) < 10 ^ (-6 : ℤ) := by norm_num
        refine ⟨f, hf, ?_⟩
        rw [hscale']
        nlinarith
  · have hfar : ∀ g, HasDigits 10 6 g → g ≠ d → (10 : ℚ) ^ (e - 5) ≤ |g - d| := by
      intro g hg hne
      have := le_abs_sub_of_lt (b := 10) (by norm_num) (by norm_num) hd hg hlt hne
      rwa [show e - ((6 : ℕ) : ℤ) + 1 = e - 5 by push_cast; ring] at this
    suffices ∃ f, IsFloat f ∧ 2 * |f - d| < 10 ^ (e - 5) by
      obtain ⟨f, hf, hclose⟩ := this
      exact ⟨f, hf, fun g hg hne => hclose.trans_le (hfar g hg hne)⟩
    rcases lt_or_ge d (2 ^ (-126 : ℤ)) with hsub | hnormal
    · obtain ⟨f, hf, hclose⟩ := exists_isFloat_subnormal hd0.le hsub
      have hunit : 2 * (2 : ℚ) ^ (-149 : ℤ) < 10 ^ (-44 : ℤ) := by norm_num
      exact ⟨f, hf, by linarith⟩
    · obtain ⟨f, hf, hclose⟩ := exists_isFloat_normal hnormal hhigh
      refine ⟨f, hf, ?_⟩
      rw [hscale] at he'
      have hunit : 2 * (2 : ℚ) ^ (-23 : ℤ) * 10 ^ 6 < 1 := by norm_num
      have hpos : (0 : ℚ) < 10 ^ (e - 5) := by positivity
      nlinarith

/-! ### Printing, reading and printing again -/

theorem Nearest.neg {G : ℚ → Prop} (hG : ∀ x, G x → G (-x)) (h : Nearest G q d) :
    Nearest G (-q) (-d) := by
  refine ⟨hG d h.1, fun g hg => ?_⟩
  have hle := h.2 (-g) (hG g hg)
  rwa [show -d - -q = -(d - q) by ring, abs_neg, show g - -q = -(-g - q) by ring, abs_neg]

/-- Every float is a multiple of the smallest one. -/
theorem IsFloat.multiple (h : IsFloat x) : ∃ z : ℤ, x = z * (2 : ℚ) ^ (-149 : ℤ) := by
  obtain ⟨m, e, -, hlow, -, rfl⟩ := h
  obtain ⟨z, hz⟩ := zpow_multiple (b := 2) (by norm_num) hlow
  refine ⟨m * z, ?_⟩
  rw [show ((2 : ℚ)) = ((2 : ℕ) : ℚ) by norm_num, hz]
  push_cast
  ring

theorem IsFloat.le_maxFloat (h : IsFloat x) : x ≤ maxFloat := by
  obtain ⟨m, e, hm, -, hhigh, rfl⟩ := h
  have hm' : (m : ℚ) ≤ 2 ^ 24 - 1 := by
    have := (le_abs_self m).trans (Int.le_sub_one_of_lt hm)
    exact_mod_cast this
  have he : (2 : ℚ) ^ e ≤ 2 ^ (104 : ℤ) := (zpow_le_zpow_iff_right₀ (by norm_num)).2 hhigh
  calc (m : ℚ) * 2 ^ e ≤ (2 ^ 24 - 1) * 2 ^ e := by gcongr
    _ ≤ (2 ^ 24 - 1) * 2 ^ (104 : ℤ) := by gcongr
    _ = maxFloat := by rw [maxFloat]; norm_num

/-- What is printed for a float is not above what is printed for the largest one. -/
theorem Nearest.le_of_isFloat (hq : IsFloat q) (h : Nearest (HasDigits 10 6) q d) :
    d ≤ 340282 * 10 ^ 33 := by
  have hmax : q ≤ maxFloat := hq.le_maxFloat
  have hc : HasDigits 10 6 (340282 * 10 ^ 33) := ⟨340282, 33, by norm_num, by norm_num⟩
  by_contra hlt
  rw [not_le] at hlt
  have hstep := le_abs_sub_of_lt (b := 10) (e := 38) (by norm_num) (by norm_num) h.1 hc
    (lt_trans (by norm_num) hlt) hlt.ne
  have hle := h.2 _ hc
  rw [maxFloat] at hmax
  norm_num at hmax hstep hle hlt
  rw [abs_of_neg (by linarith)] at hstep
  rcases le_total q 340282000000000000000000000000000000000 with hcase | hcase
  · rw [abs_of_nonneg (by linarith), abs_of_nonneg (by linarith)] at hle
    linarith
  · rw [abs_of_nonneg (by linarith), abs_of_nonpos (by linarith)] at hle
    linarith

/-- Below `1e-39` the decimals are closer together than the floats, and the number that was printed
is read back. -/
theorem eq_of_small {r : ℚ} (hq : IsFloat q) (hq0 : 0 ≤ q) (hd : Nearest (HasDigits 10 6) q d)
    (hr : Nearest IsFloat d r) (hsmall : d < (10 : ℚ) ^ (-39 : ℤ)) : r = q := by
  have hq39 : q < (10 : ℚ) ^ (-39 : ℤ) := by
    by_contra hge
    rw [not_lt] at hge
    have hle := hd.2 _ (hasDigits_zpow (b := 10) (p := 6) (by norm_num) (by norm_num) (-39))
    push_cast at hle
    rw [abs_of_neg (by linarith), abs_of_nonpos (by linarith)] at hle
    linarith
  -- a multiple of `1e-45` is near
  have hs : (0 : ℚ) < (10 : ℚ) ^ (-45 : ℤ) := by positivity
  have hround := abs_sub_round (q / (10 : ℚ) ^ (-45 : ℤ))
  have hg : HasDigits 10 6 (round (q / (10 : ℚ) ^ (-45 : ℤ)) * (10 : ℚ) ^ (-45 : ℤ)) := by
    have hlow : 0 ≤ round (q / (10 : ℚ) ^ (-45 : ℤ)) := by
      rw [round_eq]
      exact Int.floor_nonneg.2 (by positivity)
    have hhigh : round (q / (10 : ℚ) ^ (-45 : ℤ)) ≤ 10 ^ 6 := by
      rw [round_eq, ← Int.lt_add_one_iff, Int.floor_lt]
      have : q / (10 : ℚ) ^ (-45 : ℤ) < 10 ^ 6 := by
        rw [div_lt_iff₀ hs]
        refine hq39.trans_le ?_
        norm_num
      push_cast
      linarith
    rcases hhigh.lt_or_eq with hlt | heq
    · exact ⟨_, -45, by rwa [abs_of_nonneg hlow], rfl⟩
    · exact ⟨1, -39, by norm_num, by rw [heq]; norm_num⟩
  have hprint : |d - q| ≤ (10 : ℚ) ^ (-45 : ℤ) / 2 := by
    refine (hd.2 _ hg).trans ?_
    have hfactor : round (q / (10 : ℚ) ^ (-45 : ℤ)) * (10 : ℚ) ^ (-45 : ℤ) - q =
        -((q / (10 : ℚ) ^ (-45 : ℤ) - round (q / (10 : ℚ) ^ (-45 : ℤ))) *
          (10 : ℚ) ^ (-45 : ℤ)) := by
      field_simp
      ring
    rw [hfactor, abs_neg, abs_mul, abs_of_pos hs]
    nlinarith
  have hread : |r - d| ≤ |d - q| := by
    rw [abs_sub_comm d q]
    exact hr.2 q hq
  have hclose : |r - q| < (2 : ℚ) ^ (-149 : ℤ) := by
    calc |r - q| ≤ |r - d| + |d - q| := abs_sub_le r d q
      _ ≤ (10 : ℚ) ^ (-45 : ℤ) / 2 + (10 : ℚ) ^ (-45 : ℤ) / 2 :=
          add_le_add (hread.trans hprint) hprint
      _ = (10 : ℚ) ^ (-45 : ℤ) := add_halves _
      _ < 2 ^ (-149 : ℤ) := by norm_num
  obtain ⟨y, hy⟩ := hr.1.multiple
  obtain ⟨z, hz⟩ := hq.multiple
  by_contra hne
  rw [hy, hz] at hne hclose
  exact absurd (le_abs_sub_of_multiple (by positivity) hne) (not_le.2 hclose)

/-- **Printing, reading and printing again.**  A float is printed with six digits and read back as a
float nearest to what was printed.  Then it is the float it was, or what is printed for it is what
was printed. -/
theorem print_read_print {r : ℚ} (hq : IsFloat q) (hd : Nearest (HasDigits 10 6) q d)
    (hr : Nearest IsFloat d r) : r = q ∨ ∀ d', Nearest (HasDigits 10 6) r d' → d' = d := by
  -- the sign does not matter
  wlog hq0 : 0 ≤ q generalizing q d r
  · have hneg := this hq.neg (hd.neg fun _ h => h.neg) (hr.neg fun _ h => h.neg) (by linarith)
    rcases hneg with heq | hall
    · exact .inl (neg_inj.1 heq)
    · exact .inr fun d' hd' => neg_inj.1 (hall (-d') (hd'.neg fun _ h => h.neg))
  rcases lt_or_ge d ((10 : ℚ) ^ (-39 : ℤ)) with hsmall | hlarge
  · exact .inl (eq_of_small hq hq0 hd hr hsmall)
  · right
    have hhigh : d < 2 ^ (128 : ℤ) := (hd.le_of_isFloat hq).trans_lt (by norm_num)
    obtain ⟨f, hf, hclose⟩ := exists_isFloat_close hd.1 hlarge hhigh
    intro d' hd'
    refine hd'.eq_of_close hd.1 fun g hg hne => ?_
    have hread := hr.2 f hf
    have := hclose g hg hne
    rw [abs_sub_comm d r]
    linarith

/-! ### Rounding -/

/-- The multiple of `s` nearest to `q`. -/
def roundTo (s q : ℚ) : ℚ := round (q / s) * s

/-- A number with at most `p` digits in base `b` nearest to `q`. -/
def roundDigits (b p : ℕ) (q : ℚ) : ℚ :=
  if q = 0 then 0 else roundTo ((b : ℚ) ^ (Int.log b |q| - p + 1)) q

/-- A float nearest to `d`, if `d` is in their range. -/
def roundFloat (d : ℚ) : ℚ :=
  if |d| < 2 ^ (-126 : ℤ) then roundTo (2 ^ (-149 : ℤ)) d else roundDigits 2 24 d

theorem roundTo_nearest {s : ℚ} (hs : 0 < s) (q : ℚ) (z : ℤ) : |roundTo s q - q| ≤ |z * s - q| := by
  have hfactor : ∀ w : ℤ, |w * s - q| = |q / s - w| * s := by
    intro w
    rw [abs_sub_comm, ← abs_of_pos hs, ← abs_mul, abs_of_pos hs, sub_mul,
      div_mul_cancel₀ _ hs.ne']
  rw [roundTo, hfactor, hfactor]
  exact mul_le_mul_of_nonneg_right (round_le (q / s) z) hs.le

/-- Rounding does not leave a symmetric range between multiples. -/
theorem abs_round_le {y : ℚ} {n : ℤ} (hy : |y| ≤ n) : |round y| ≤ n := by
  obtain ⟨hlow, hhigh⟩ := abs_le.1 hy
  rw [abs_le, round_eq, Int.le_floor]
  refine ⟨by push_cast; linarith, ?_⟩
  rw [← Int.lt_add_one_iff, Int.floor_lt]
  push_cast
  linarith

theorem hasDigits_zero (hb : 1 < b) : HasDigits b p 0 := by
  refine ⟨0, 0, ?_, by simp⟩
  rw [abs_zero]
  exact_mod_cast pow_pos (zero_lt_one.trans hb) p

/-- **Rounding to so many digits** gives a nearest number with them. -/
theorem nearest_roundDigits (hb : 1 < b) (hp : 0 < p) (q : ℚ) :
    Nearest (HasDigits b p) q (roundDigits b p q) := by
  by_cases hq : q = 0
  · rw [roundDigits, if_pos hq, hq]
    exact ⟨hasDigits_zero hb, fun g _ => by simp⟩
  rw [roundDigits, if_neg hq]
  have hb0 : (0 : ℚ) < b := by positivity
  have hq0 : 0 < |q| := abs_pos.2 hq
  generalize hn : Int.log b |q| = n
  have hlow : (b : ℚ) ^ n ≤ |q| := hn ▸ Int.zpow_log_le_self hb hq0
  have hhigh : |q| < (b : ℚ) ^ (n + 1) := hn ▸ Int.lt_zpow_succ_log_self hb |q|
  have hs : (0 : ℚ) < (b : ℚ) ^ (n - p + 1) := by positivity
  refine ⟨?_, fun g hg => ?_⟩
  · have hle : |round (q / (b : ℚ) ^ (n - p + 1))| ≤ (b ^ p : ℤ) := by
      refine abs_round_le ?_
      rw [abs_div, abs_of_pos hs, div_le_iff₀ hs]
      refine hhigh.le.trans_eq ?_
      push_cast
      rw [← zpow_natCast, ← zpow_add₀ hb0.ne']
      congr 1
      ring
    rcases hle.lt_or_eq with hlt | heq
    · exact ⟨_, _, hlt, rfl⟩
    -- the digits are a one with zeros
    · have hone : HasDigits b p ((b : ℚ) ^ (n + 1)) := hasDigits_zpow hb hp _
      have hval : |roundTo ((b : ℚ) ^ (n - p + 1)) q| = (b : ℚ) ^ (n + 1) := by
        rw [roundTo, abs_mul, abs_of_pos hs, ← Int.cast_abs, heq]
        push_cast
        rw [← zpow_natCast, ← zpow_add₀ hb0.ne']
        congr 1
        ring
      rcases abs_choice (roundTo ((b : ℚ) ^ (n - p + 1)) q) with habs | habs
      · rwa [← habs, hval]
      · rw [← neg_neg (roundTo _ _), ← habs, hval]
        exact hone.neg
  · rcases le_or_gt ((b : ℚ) ^ n) |g| with hge | hlt
    · obtain ⟨z, hz⟩ := hg.multiple hb hge
      rw [hz]
      exact roundTo_nearest hs q z
    -- what is smaller is farther away than the power of the base with the sign of `q`
    · obtain ⟨z, hz⟩ := zpow_multiple hb (show n - p + 1 ≤ n by omega)
      have htriangle : |q| - |g| ≤ |g - q| := by
        rw [abs_sub_comm]
        exact abs_sub_abs_le_abs_sub q g
      rcases le_total 0 q with hsign | hsign
      · refine (roundTo_nearest hs q z).trans ?_
        rw [abs_of_nonneg hsign] at hlow htriangle
        rw [← hz, abs_of_nonpos (by linarith)]
        linarith
      · refine (roundTo_nearest hs q (-z)).trans ?_
        rw [abs_of_nonpos hsign] at hlow htriangle
        push_cast
        rw [neg_mul, ← hz, abs_of_nonneg (by linarith)]
        linarith

/-- Rounding does not go beyond a bound that can be met. -/
theorem Nearest.abs_le_of_mem {G : ℚ → Prop} {bound : ℚ} (h : Nearest G q d) (hpos : G bound)
    (hneg : G (-bound)) (hq : |q| ≤ bound) : |d| ≤ bound := by
  obtain ⟨hlow, hhigh⟩ := abs_le.1 hq
  by_contra hlt
  rw [not_le, lt_abs] at hlt
  rcases hlt with hlt | hlt
  · have hle := h.2 bound hpos
    rw [abs_of_nonneg (show 0 ≤ d - q by linarith),
      abs_of_nonneg (show 0 ≤ bound - q by linarith)] at hle
    linarith
  · have hle := h.2 (-bound) hneg
    rw [abs_of_nonpos (show d - q ≤ 0 by linarith),
      abs_of_nonpos (show -bound - q ≤ 0 by linarith)] at hle
    linarith

/-- Nor does it go below one. -/
theorem Nearest.le_abs_of_mem {G : ℚ → Prop} {bound : ℚ} (h : Nearest G q d) (hpos : G bound)
    (hneg : G (-bound)) (hq : bound ≤ |q|) : bound ≤ |d| := by
  by_contra hlt
  rw [not_le, abs_lt] at hlt
  rcases le_abs.1 hq with hq | hq
  · have hle := h.2 bound hpos
    rw [abs_of_nonpos (show d - q ≤ 0 by linarith),
      abs_of_nonpos (show bound - q ≤ 0 by linarith)] at hle
    linarith
  · have hle := h.2 (-bound) hneg
    rw [abs_of_nonneg (show 0 ≤ d - q by linarith),
      abs_of_nonneg (show 0 ≤ -bound - q by linarith)] at hle
    linarith

/-- In the normal range the floats are the numbers with 24 binary digits. -/
theorem HasDigits.isFloat (h : HasDigits 2 24 x) (hlow : (2 : ℚ) ^ (-126 : ℤ) ≤ |x|)
    (hhigh : |x| ≤ maxFloat) : IsFloat x := by
  have hx : 0 < |x| := lt_of_lt_of_le (by positivity) hlow
  obtain ⟨n, hn, hn'⟩ := exists_mem_Ico_zpow hx (show (1 : ℚ) < 2 by norm_num)
  have hn1 : (-126 : ℤ) < n + 1 :=
    (zpow_lt_zpow_iff_right₀ (by norm_num : (1 : ℚ) < 2)).1 (hlow.trans_lt hn')
  have hn2 : n < 128 := by
    have hmax : maxFloat < (2 : ℚ) ^ (128 : ℤ) := by
      rw [maxFloat]
      norm_num
    exact (zpow_lt_zpow_iff_right₀ (by norm_num : (1 : ℚ) < 2)).1 ((hn.trans hhigh).trans_lt hmax)
  have hs : (0 : ℚ) < 2 ^ (n - 23) := by positivity
  obtain ⟨z, hz⟩ := h.multiple (by norm_num) hn
  rw [show n - ((24 : ℕ) : ℤ) + 1 = n - 23 by push_cast; ring, Nat.cast_ofNat] at hz
  refine ⟨z, n - 23, ?_, by omega, by omega, hz⟩
  rw [hz, abs_mul, abs_of_pos hs, show n + 1 = 24 + (n - 23) by ring,
    zpow_add₀ (by norm_num)] at hn'
  have hlt := lt_of_mul_lt_mul_right hn' hs.le
  exact_mod_cast hlt

/-- **Rounding to a float** gives a nearest one. -/
theorem nearest_roundFloat (hd : |d| ≤ maxFloat) : Nearest IsFloat d (roundFloat d) := by
  rw [roundFloat]
  split
  · next hsmall =>
      have hs : (0 : ℚ) < 2 ^ (-149 : ℤ) := by positivity
      refine ⟨⟨_, -149, ?_, by omega, by omega, rfl⟩, fun g hg => ?_⟩
      · have hle : |d / (2 : ℚ) ^ (-149 : ℤ)| ≤ (2 ^ 23 : ℤ) := by
          rw [abs_div, abs_of_pos hs, div_le_iff₀ hs]
          refine hsmall.le.trans_eq ?_
          norm_num
        exact (abs_round_le hle).trans_lt (by norm_num)
      · obtain ⟨z, rfl⟩ := hg.multiple
        exact roundTo_nearest hs d z
  · next hlarge =>
      have hnear := nearest_roundDigits (b := 2) (p := 24) (by norm_num) (by norm_num) d
      have hmin : HasDigits 2 24 (2 ^ (-126 : ℤ)) :=
        hasDigits_zpow (b := 2) (by norm_num) (by norm_num) (-126)
      have hmax : HasDigits 2 24 maxFloat := ⟨2 ^ 24 - 1, 104, by norm_num, by
        rw [maxFloat]
        norm_num⟩
      have hlow := hnear.le_abs_of_mem hmin hmin.neg (not_lt.1 hlarge)
      have hhigh := hnear.abs_le_of_mem hmax hmax.neg hd
      exact ⟨hnear.1.isFloat hlow hhigh, fun g hg => hnear.2 g hg.hasDigits⟩

/-- What is printed for a float is in their range. -/
theorem Nearest.abs_le_maxFloat (hq : IsFloat q) (h : Nearest (HasDigits 10 6) q d) :
    |d| ≤ maxFloat := by
  have hrange : (340282 * 10 ^ 33 : ℚ) ≤ maxFloat := by
    rw [maxFloat]
    norm_num
  have hneg := (h.neg fun _ hg => hg.neg).le_of_isFloat hq.neg
  exact abs_le'.2 ⟨(h.le_of_isFloat hq).trans hrange, hneg.trans hrange⟩

end FloatDecimal
