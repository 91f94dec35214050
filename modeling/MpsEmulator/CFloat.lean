/-
**Floating-point values in exact arithmetic, and their conversions to machine integers.**

A floating-point number is a rational, one of the two infinities, or NaN; the two zeros are one
value.  Arithmetic on the rationals is exact: rounding is left to whoever produces a value.  What
matters here is where the special values come from and what the conversions to fixed-width integers
do with them.  A conversion whose result does not fit is undefined in C; it is modelled by a value
`out` that the platform supplies, about which nothing is known.

* `CFloat` — the values;
* `CFloat.divInto`, `CFloat.ceil` — `a / x` and `ceil x`;
* `truncate` — rounding towards zero, the rounding of every conversion to an integer;
* `CFloat.toUInt32`, `CFloat.toInt32` — the two conversions, with `CFloat.toUInt32_fin` for the
  values that fit.
-/

import Mathlib

set_option relaxedAutoImplicit false
set_option autoImplicit false

/-- A floating-point value: a rational number, an infinity with its sign, or NaN. -/
inductive CFloat
  | fin (q : ℚ)
  | inf (negative : Bool)
  | nan
  deriving DecidableEq

/-! ### Truncation -/

/-- Rounding towards zero. -/
def truncate (q : ℚ) : ℤ := q.num.tdiv q.den

theorem truncate_of_nonneg {q : ℚ} (hq : 0 ≤ q) : truncate q = ⌊q⌋ := by
  have hnum : 0 ≤ q.num := Rat.num_nonneg.2 hq
  rw [truncate, Int.tdiv_eq_ediv_of_nonneg hnum, Rat.floor_def']

theorem truncate_neg (q : ℚ) : truncate (-q) = -truncate q := by
  rw [truncate, truncate, Rat.neg_num, Rat.neg_den, Int.neg_tdiv]

/-- A number at most an integer is truncated to a number at most that integer. -/
theorem truncate_le {q : ℚ} {z : ℤ} (hz : 0 ≤ z) (h : q ≤ z) : truncate q ≤ z := by
  rcases le_total 0 q with hq | hq
  · rw [truncate_of_nonneg hq]
    exact_mod_cast (Int.floor_le q).trans h
  · have hneg : 0 ≤ ⌊-q⌋ := Int.floor_nonneg.2 (by linarith)
    have : truncate q = -⌊-q⌋ := by
      rw [← truncate_of_nonneg (q := -q) (by linarith), truncate_neg, neg_neg]
    omega

/-- A number at least an integer is truncated to a number at least that integer. -/
theorem le_truncate {q : ℚ} {z : ℤ} (hz : z ≤ 0) (h : (z : ℚ) ≤ q) : z ≤ truncate q := by
  have h' : truncate (-q) ≤ -z := truncate_le (by omega) (by push_cast; linarith)
  rw [truncate_neg] at h'
  omega

namespace CFloat

/-! ### Arithmetic -/

/-- The comparison `x >= a`, false on NaN. -/
def ge (x : CFloat) (a : ℚ) : Bool :=
  match x with
  | fin q => decide (a ≤ q)
  | inf negative => !negative
  | nan => false

/-- The quotient `a / x` of a positive constant. -/
def divInto (a : ℚ) : CFloat → CFloat
  | fin q => if q = 0 then inf false else fin (a / q)
  | inf _ => fin 0
  | nan => nan

/-- The function `ceil`. -/
def ceil : CFloat → CFloat
  | fin q => fin ⌈q⌉
  | x => x

/-! ### Conversions to integers -/

/-- The conversion to a 32-bit unsigned integer.  Where it is undefined, the result is whatever
the platform leaves in the register. -/
def toUInt32 (out : CFloat → ℕ) (x : CFloat) : ℕ :=
  match x with
  | fin q => if 0 ≤ truncate q ∧ truncate q < 2 ^ 32 then (truncate q).toNat else out x % 2 ^ 32
  | _ => out x % 2 ^ 32

/-- The conversion to a 32-bit signed integer. -/
def toInt32 (out : CFloat → ℤ) (x : CFloat) : ℤ :=
  match x with
  | fin q =>
      if -2 ^ 31 ≤ truncate q ∧ truncate q < 2 ^ 31 then truncate q else (out x).bmod (2 ^ 32)
  | _ => (out x).bmod (2 ^ 32)

theorem toUInt32_fin {out : CFloat → ℕ} {q : ℚ} (h₀ : 0 ≤ truncate q)
    (h₁ : truncate q < 2 ^ 32) : toUInt32 out (fin q) = (truncate q).toNat := by
  rw [toUInt32, if_pos ⟨h₀, h₁⟩]

end CFloat
