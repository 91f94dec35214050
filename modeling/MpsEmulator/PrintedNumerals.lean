/-
**Reading back numerals that were printed.**

The decimal text of an integer is a numeral in full, and so is that of a rational number with few
digits; both denote the number they were printed for.

* `showInt` — the decimal text of an integer;
* `showSix` — a text for a number with six digits: its integer where that is short enough, and
  otherwise its digits with an exponent;
* `wholeInt_showInt`, `strtoul_toDigits`, `wholeFloat_showSix` — **what was printed is read back**.
-/

import MpsEmulator.CNumeral
import MpsEmulator.FloatDecimal

set_option relaxedAutoImplicit false
set_option autoImplicit false

namespace CNumeral

open FloatDecimal

/-! ### Decimal digits -/

theorem digitVal_of_isDigit {c : Char} (h : c.isDigit = true) :
    digitVal c = c.toNat - '0'.toNat := by
  rw [Char.isDigit, Bool.and_eq_true, decide_eq_true_eq, decide_eq_true_eq] at h
  rw [digitVal, if_pos]
  exact h

theorem isDigit_of_mem_toDigits {n : ℕ} {c : Char} (hc : c ∈ Nat.toDigits 10 n) :
    isDigit 10 c = true := by
  have h := Nat.isDigit_of_mem_toDigits (by decide) (by decide) hc
  rw [isDigit, digitVal_of_isDigit h, decide_eq_true_eq]
  rw [Char.isDigit, Bool.and_eq_true, decide_eq_true_eq, decide_eq_true_eq] at h
  have hhigh : c.toNat ≤ '9'.toNat := h.2
  simp only [Char.reduceToNat] at hhigh ⊢
  omega

theorem foldl_digits {ds : List Char} (h : ∀ c ∈ ds, c.isDigit = true) (n : ℕ) :
    ds.foldl (fun n c => n * 10 + digitVal c) n = Nat.ofDigitChars 10 ds n := by
  induction ds generalizing n with
  | nil => rw [List.foldl_nil, Nat.ofDigitChars_nil]
  | cons c ds ih =>
      rw [List.foldl_cons, ih fun c' hc' => h c' (List.mem_cons_of_mem _ hc'),
        Nat.ofDigitChars_cons, digitVal_of_isDigit (h c List.mem_cons_self), Nat.mul_comm]

theorem ofDigits_toDigits (n : ℕ) : ofDigits 10 (Nat.toDigits 10 n) = n := by
  rw [ofDigits, foldl_digits fun c hc => Nat.isDigit_of_mem_toDigits (by decide) (by decide) hc]
  exact Nat.ofDigitChars_toDigits (by decide) (by decide)

/-- A numeral that begins with a digit has no sign. -/
theorem sign_toDigits (n : ℕ) (s : List Char) :
    sign (Nat.toDigits 10 n ++ s) = (false, Nat.toDigits 10 n ++ s) := by
  cases hn : Nat.toDigits 10 n with
  | nil => exact absurd hn Nat.toDigits_ne_nil
  | cons c ds =>
      have hc : isDigit 10 c = true := isDigit_of_mem_toDigits (hn ▸ List.mem_cons_self)
      have hminus : c ≠ '-' := ne_of_isDigit (by decide) (by decide) hc
      have hplus : c ≠ '+' := ne_of_isDigit (by decide) (by decide) hc
      rw [List.cons_append, sign.eq_def]
      split
      · next h => exact absurd (List.cons_eq_cons.1 h).1 hminus
      · next h => exact absurd (List.cons_eq_cons.1 h).1 hplus
      · rfl

/-- Reading digits stops where they were printed to. -/
theorem takeWhile_toDigits (n : ℕ) {s : List Char} (hs : ∀ c ∈ s.head?, isDigit 10 c = false) :
    (Nat.toDigits 10 n ++ s).takeWhile (isDigit 10) = Nat.toDigits 10 n ∧
      (Nat.toDigits 10 n ++ s).dropWhile (isDigit 10) = s := by
  have hdigits : ∀ c ∈ Nat.toDigits 10 n, isDigit 10 c = true := fun c hc =>
    isDigit_of_mem_toDigits hc
  rw [List.takeWhile_append_of_pos hdigits, List.dropWhile_append_of_pos hdigits]
  cases s with
  | nil => simp
  | cons c s =>
      have hc : isDigit 10 c = false := hs c rfl
      simp [hc]

/-! ### Integers -/

/-- The decimal text of an integer. -/
def showInt (z : ℤ) : List Char := (if z < 0 then ['-'] else []) ++ Nat.toDigits 10 z.natAbs

theorem sign_showInt (z : ℤ) (s : List Char) :
    sign (showInt z ++ s) = (decide (z < 0), Nat.toDigits 10 z.natAbs ++ s) := by
  by_cases hz : z < 0
  · simp [showInt, hz, sign]
  · simp only [showInt, if_neg hz, List.nil_append, decide_eq_false hz, sign_toDigits]

theorem sign_mul_natAbs (z : ℤ) :
    (if decide (z < 0) = true then -(z.natAbs : ℤ) else z.natAbs) = z := by
  by_cases hz : z < 0
  · rw [if_pos (decide_eq_true hz)]
    omega
  · rw [if_neg (by simp [hz])]
    omega

/-- The text of an integer is read as that integer. -/
theorem wholeInt_showInt (z : ℤ) : wholeInt (showInt z) = some z := by
  have hsign := sign_showInt z []
  rw [List.append_nil, List.append_nil] at hsign
  rw [wholeInt_eq_some, hsign]
  refine ⟨⟨Nat.toDigits_ne_nil, fun c hc => isDigit_of_mem_toDigits hc⟩, ?_⟩
  rw [ofDigits_toDigits]
  exact sign_mul_natAbs z

theorem wholeInt_toDigits (n : ℕ) : wholeInt (Nat.toDigits 10 n) = some (n : ℤ) :=
  wholeInt_showInt n

/-- The only number whose text begins with a zero is zero. -/
theorem eq_zero_of_toDigits {n : ℕ} {s : List Char} (h : Nat.toDigits 10 n = '0' :: s) : n = 0 := by
  induction n using Nat.strong_induction_on generalizing s with
  | _ n ih =>
      rcases lt_or_ge n 10 with hn | hn
      · rw [Nat.toDigits_of_lt_base hn] at h
        have hdigit : n.digitChar = '0' := (List.cons_eq_cons.1 h).1
        interval_cases n <;> first | rfl | exact absurd hdigit (by decide)
      · rw [Nat.toDigits_of_base_le (by decide) hn] at h
        obtain ⟨c, r, hr⟩ :=
          List.exists_cons_of_ne_nil (Nat.toDigits_ne_nil (n := n / 10) (b := 10))
        rw [hr, List.cons_append] at h
        obtain ⟨rfl, -⟩ := List.cons_eq_cons.1 h
        have := ih (n / 10) (by omega) hr
        omega

/-- `strtoul` reads the text of a number as a decimal one. -/
theorem strtoul_toDigits {max n : ℕ} (hn : n ≤ max) :
    strtoul max (Nat.toDigits 10 n) = { value := n, range := false, rest := some [] } := by
  rcases Nat.eq_zero_or_pos n with rfl | hpos
  · simp [strtoul, sign, isSpace, isDigit, digitVal, ofDigits]
  have hsign : sign (Nat.toDigits 10 n) = (false, Nat.toDigits 10 n) := by
    simpa only [List.append_nil] using sign_toDigits n []
  have hdigits : ∀ c ∈ Nat.toDigits 10 n, isDigit 10 c = true := fun c hc =>
    isDigit_of_mem_toDigits hc
  have hspace : (Nat.toDigits 10 n).dropWhile isSpace = Nat.toDigits 10 n := by
    refine dropWhile_isSpace fun c hc => ?_
    rw [hsign] at hc
    exact isSpace_of_isDigit (by decide) (hdigits c (List.mem_of_mem_head? hc))
  have hzero : ∀ s, Nat.toDigits 10 n ≠ '0' :: s := by
    intro s hs
    exact hpos.ne' (eq_zero_of_toDigits hs)
  have hvalue := ofDigits_toDigits n
  have hne : Nat.toDigits 10 n ≠ [] := Nat.toDigits_ne_nil
  rw [strtoul, hspace, hsign]
  generalize Nat.toDigits 10 n = ds at *
  cases ds with
  | nil => exact absurd rfl hne
  | cons c s =>
      have hc : c ≠ '0' := by
        rintro rfl
        exact hzero s rfl
      have htake : (c :: s).takeWhile (isDigit 10) = c :: s := List.takeWhile_eq_self_iff.2 hdigits
      have hdrop : (c :: s).dropWhile (isDigit 10) = [] := List.dropWhile_eq_nil_iff.2 hdigits
      simp [hc, htake, hdrop, hvalue, hn]

/-! ### Numbers with six digits -/

/-- A text for a number with six digits. -/
def showSix (g : ℚ) : List Char :=
  if g.den = 1 ∧ |g.num| < 10 ^ 6 then showInt g.num
  else
    let k := Int.log 10 |g| - 5
    showInt (round (g / 10 ^ k)) ++ 'e' :: showInt k

/-- A numeral whose second character is no `x` is decimal. -/
theorem wholeUnsignedFloat_decimal {s : List Char} (hs : ∀ x ∈ s.tail.head?, x ≠ 'x' ∧ x ≠ 'X') :
    wholeUnsignedFloat s = (do
      let (m, r) ← mantissa 10 s
      let e ← wholeExponent 'e' r
      return m * 10 ^ e) := by
  rw [wholeUnsignedFloat.eq_def]
  split
  · next x r =>
      have hx := hs x rfl
      rw [if_neg (by simp [hx])]
  · rfl

theorem mantissa_toDigits (n : ℕ) {s : List Char}
    (hs : ∀ c ∈ s.head?, isDigit 10 c = false ∧ c ≠ '.') :
    mantissa 10 (Nat.toDigits 10 n ++ s) = some ((n : ℚ), s) := by
  obtain ⟨htake, hdrop⟩ := takeWhile_toDigits n fun c hc => (hs c hc).1
  rw [mantissa.eq_def, htake, hdrop]
  split
  · next r => exact absurd rfl (hs '.' rfl).2
  · rw [if_neg Nat.toDigits_ne_nil, ofDigits_toDigits]

/-- An integer with an exponent behind it, or nothing. -/
theorem wholeFloat_showInt (z : ℤ) {s : List Char} (hs : ∀ c ∈ s.head?, c = 'e') :
    wholeFloat (showInt z ++ s) = (wholeExponent 'e' s).map fun e => z * (10 : ℚ) ^ e := by
  have hsecond : ∀ x ∈ (Nat.toDigits 10 z.natAbs ++ s).tail.head?, x ≠ 'x' ∧ x ≠ 'X' := by
    intro x hx
    obtain ⟨c, ds, hds⟩ :=
      List.exists_cons_of_ne_nil (Nat.toDigits_ne_nil (n := z.natAbs) (b := 10))
    rw [hds, List.cons_append, List.tail_cons, List.head?_append, Option.mem_def,
      Option.or_eq_some_iff] at hx
    rcases hx with hx | ⟨-, hx⟩
    · have hdigit : isDigit 10 x = true :=
        isDigit_of_mem_toDigits (hds ▸ List.mem_cons_of_mem _ (List.mem_of_mem_head? hx))
      constructor
      · rintro rfl
        exact absurd hdigit (by decide)
      · rintro rfl
        exact absurd hdigit (by decide)
    · rw [hs x hx]
      decide
  have hmantissa : mantissa 10 (Nat.toDigits 10 z.natAbs ++ s) = some ((z.natAbs : ℚ), s) := by
    refine mantissa_toDigits _ fun c hc => ?_
    rw [hs c hc]
    decide
  have habs : (z.natAbs : ℚ) = |(z : ℚ)| := by rw [Nat.cast_natAbs, Int.cast_abs]
  rw [wholeFloat, sign_showInt]
  dsimp only
  rw [wholeUnsignedFloat_decimal hsecond, hmantissa, habs]
  simp only [Option.bind_eq_bind, Option.bind_some, Option.pure_def]
  cases wholeExponent 'e' s with
  | none => rfl
  | some e =>
      by_cases hz : z < 0
      · have hneg : |(z : ℚ)| = -z := abs_of_neg (by exact_mod_cast hz)
        simp [hz, hneg]
      · have hpos : |(z : ℚ)| = z := abs_of_nonneg (by exact_mod_cast not_lt.1 hz)
        simp [hz, hpos]

/-- **The text of a number with six digits** is read as that number. -/
theorem wholeFloat_showSix {g : ℚ} (hg : HasDigits 10 6 g) : wholeFloat (showSix g) = some g := by
  rw [showSix]
  split
  · next hshort =>
      have h := wholeFloat_showInt g.num (s := []) (by simp)
      rw [List.append_nil] at h
      rw [h]
      have hnum : (g.num : ℚ) = g := Rat.den_eq_one_iff g |>.1 hshort.1
      simp [wholeExponent, hnum]
  · next hlong =>
      have hne : g ≠ 0 := by
        rintro rfl
        exact hlong (by simp)
      obtain ⟨z, hz⟩ :=
        hg.multiple (by norm_num) (Int.zpow_log_le_self (by norm_num) (abs_pos.2 hne))
      have hk : Int.log 10 |g| - ((6 : ℕ) : ℤ) + 1 = Int.log 10 |g| - 5 := by push_cast; ring
      rw [hk, Nat.cast_ofNat] at hz
      have hround : round (g / (10 : ℚ) ^ (Int.log 10 |g| - 5)) = z := by
        have hdiv : g / (10 : ℚ) ^ (Int.log 10 |g| - 5) = z := by
          rw [div_eq_iff (by positivity)]
          exact hz
        rw [hdiv, round_intCast]
      rw [wholeFloat_showInt _ (by simp), wholeExponent, if_pos (by decide), wholeInt_showInt,
        hround, Option.map_some, ← hz]

end CNumeral
