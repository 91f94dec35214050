/-
**Reading numerals the way the C library does.**

The functions of the `scanf` family and `strtoul` read the longest initial part of their input
that can begin a numeral and ignore what follows it, which is why a caller that does not look at
the rest accepts `12abc`.  This module gives them as functions on the characters that are left to
read.

* `CNumeral.sscanfInt` — the conversions `%d` and `%hd`, before the result is cut down to the size
  of the object it is stored in;
* `CNumeral.sscanfFloat` — the conversion `%f`: decimal and hexadecimal numerals, `inf`,
  `infinity` and `nan`;
* `CNumeral.strtoul` — `strtoul` with base `0`, its end pointer and its range error;
* `CNumeral.wrapUnsigned` — storing an integer in an unsigned object of `w` bits;
* `CNumeral.wholeInt`, `CNumeral.wholeFloat` — the numerals themselves: a text is one only if it is
  one in full;
* `CNumeral.sscanfInt_of_wholeInt`, `CNumeral.sscanfFloat_of_wholeFloat` — on a numeral, `sscanf`
  reads its value;
* `CNumeral.wholeUnsigned`, `CNumeral.strtoul_of_wholeUnsigned`, `CNumeral.strtoul_rest_ne_nil` —
  the unsigned numerals, on which alone `strtoul` leaves nothing unread.

A conversion that fails is `none`, and then nothing is stored.  As the C standard has it, a
conversion also fails when the characters it consumed only begin a numeral: `1e` is not read
as `1`.
-/

import MpsEmulator.CFloat

set_option relaxedAutoImplicit false
set_option autoImplicit false

namespace CNumeral

/-! ### Digits -/

/-- The value of a character as a digit, `36` where it is not one in any base. -/
def digitVal (c : Char) : ℕ :=
  if '0' ≤ c ∧ c ≤ '9' then c.toNat - '0'.toNat
  else if 'a' ≤ c ∧ c ≤ 'z' then c.toNat - 'a'.toNat + 10
  else if 'A' ≤ c ∧ c ≤ 'Z' then c.toNat - 'A'.toNat + 10
  else 36

/-- The characters that are digits in the given base. -/
def isDigit (base : ℕ) (c : Char) : Bool := digitVal c < base

/-- The number a list of digits denotes, most significant digit first. -/
def ofDigits (base : ℕ) (ds : List Char) : ℕ := ds.foldl (fun n c => n * base + digitVal c) 0

/-- The function `isspace`. -/
def isSpace (c : Char) : Bool :=
  c = ' ' ∨ c = '\t' ∨ c = '\n' ∨ c = '\x0b' ∨ c = '\x0c' ∨ c = '\r'

/-- An optional sign: whether it is a minus, and what follows it. -/
def sign : List Char → Bool × List Char
  | '-' :: s => (true, s)
  | '+' :: s => (false, s)
  | s => (false, s)

/-! ### Integers -/

/-- The conversions `%d` and `%hd`. -/
def sscanfInt (s : List Char) : Option ℤ :=
  let (minus, r) := sign (s.dropWhile isSpace)
  match r.takeWhile (isDigit 10) with
  | [] => none
  | ds => some (if minus then -(ofDigits 10 ds : ℤ) else ofDigits 10 ds)

/-- An integer stored in an unsigned object of `w` bits. -/
def wrapUnsigned (w : ℕ) (z : ℤ) : ℕ := (z % 2 ^ w).toNat

/-- What `strtoul` reports: the value, whether it set `errno` to `ERANGE`, and the characters
from the end pointer on, `none` when the end pointer is the start of the input. -/
structure Strtoul where
  value : ℕ
  range : Bool
  rest : Option (List Char)

/-- The function `strtoul` with base `0`, for an `unsigned long` with `max` as its largest value.
The prefix `0x` selects base 16 only when a hexadecimal digit follows it, and a minus sign negates
the value modulo `max + 1`. -/
def strtoul (max : ℕ) (s : List Char) : Strtoul :=
  let (minus, r) := sign (s.dropWhile isSpace)
  let (base, r) : ℕ × List Char :=
    match r with
    | '0' :: x :: d :: r' =>
        if (x = 'x' ∨ x = 'X') ∧ isDigit 16 d then (16, d :: r') else (8, r)
    | '0' :: _ => (8, r)
    | _ => (10, r)
  match r.takeWhile (isDigit base) with
  | [] => { value := 0, range := false, rest := none }
  | ds =>
      let n := ofDigits base ds
      let rest := some (r.dropWhile (isDigit base))
      if max < n then { value := max, range := true, rest := rest }
      else { value := if minus then (max + 1 - n) % (max + 1) else n, range := false, rest := rest }

/-! ### Floating point -/

/-- The digits of a numeral with an optional point: its value and what follows it, `none` when
there is no digit at all. -/
def mantissa (base : ℕ) (s : List Char) : Option (ℚ × List Char) :=
  let whole := s.takeWhile (isDigit base)
  match s.dropWhile (isDigit base) with
  | '.' :: r =>
      let part := r.takeWhile (isDigit base)
      if whole = [] ∧ part = [] then none
      else some (ofDigits base (whole ++ part) / base ^ part.length, r.dropWhile (isDigit base))
  | r => if whole = [] then none else some (ofDigits base whole, r)

/-- The exponent after the mark `e` or `p`; an exponent without digits makes the conversion
fail. -/
def exponent (mark : Char) (s : List Char) : Option ℤ :=
  match s with
  | c :: r =>
      if c.toLower = mark then
        let (minus, r) := sign r
        match r.takeWhile (isDigit 10) with
        | [] => none
        | ds => some (if minus then -(ofDigits 10 ds : ℤ) else ofDigits 10 ds)
      else some 0
  | [] => some 0

/-- An unsigned numeral without `inf` and `nan`. -/
def unsignedFloat (s : List Char) : Option ℚ :=
  match s with
  | '0' :: x :: r =>
      if x = 'x' ∨ x = 'X' then do
        let (m, r) ← mantissa 16 r
        let e ← exponent 'p' r
        return m * 2 ^ e
      else do
        let (m, r) ← mantissa 10 s
        let e ← exponent 'e' r
        return m * 10 ^ e
  | _ => do
      let (m, r) ← mantissa 10 s
      let e ← exponent 'e' r
      return m * 10 ^ e

/-- What follows `nan`: nothing that matters, or a parenthesised tag, which has to be closed. -/
def nanTag : List Char → Bool
  | '(' :: r => (r.dropWhile fun c => c.isAlphanum || c = '_').head? = some ')'
  | _ => true

/-- What follows `inf`: the rest of `infinity` has to be complete once it is begun. -/
def infTail : List Char → Bool
  | 'i' :: r => "nity".toList <+: r
  | _ => true

/-- The conversion `%f`, with `round` giving the value that is stored for a rational. -/
def sscanfFloat (round : ℚ → CFloat) (s : List Char) : Option CFloat :=
  let (minus, r) := sign (s.dropWhile isSpace)
  let low := r.map Char.toLower
  if "nan".toList <+: low then
    if nanTag (r.drop 3) then some .nan else none
  else if "inf".toList <+: low then
    if infTail (low.drop 3) then some (.inf minus) else none
  else (unsignedFloat r).map fun q => round (if minus then -q else q)

/-! ### Numerals in full -/

/-- The value of an integer numeral with an optional sign. -/
def wholeInt (t : List Char) : Option ℤ :=
  let (minus, ds) := sign t
  if ds ≠ [] ∧ ds.all (isDigit 10) then
    some (if minus then -(ofDigits 10 ds : ℤ) else ofDigits 10 ds)
  else none

/-- The exponent of a numeral, from its mark to the end of the text. -/
def wholeExponent (mark : Char) : List Char → Option ℤ
  | c :: r => if c.toLower = mark then wholeInt r else none
  | [] => some 0

/-- The value of an unsigned floating-point numeral, decimal or hexadecimal. -/
def wholeUnsignedFloat (s : List Char) : Option ℚ :=
  match s with
  | '0' :: x :: r =>
      if x = 'x' ∨ x = 'X' then do
        let (m, r) ← mantissa 16 r
        let e ← wholeExponent 'p' r
        return m * 2 ^ e
      else do
        let (m, r) ← mantissa 10 s
        let e ← wholeExponent 'e' r
        return m * 10 ^ e
  | _ => do
      let (m, r) ← mantissa 10 s
      let e ← wholeExponent 'e' r
      return m * 10 ^ e

/-- The value of a floating-point numeral with an optional sign. -/
def wholeFloat (t : List Char) : Option ℚ :=
  let (minus, r) := sign t
  (wholeUnsignedFloat r).map fun q => if minus then -q else q

/-- The value of a text of digits in the given base, of which there is at least one. -/
def wholeDigits (base : ℕ) (ds : List Char) : Option ℕ :=
  if ds ≠ [] ∧ ds.all (isDigit base) then some (ofDigits base ds) else none

/-- The value of an unsigned integer numeral of C: hexadecimal behind `0x`, octal behind a leading
`0`, and decimal otherwise. -/
def wholeUnsigned (t : List Char) : Option ℕ :=
  match t with
  | '0' :: x :: r => if x = 'x' ∨ x = 'X' then wholeDigits 16 r else wholeDigits 8 (x :: r)
  | _ => wholeDigits 10 t

/-! ### `sscanf` on a numeral -/

/-- A digit is none of the characters that are not digits in base 36. -/
theorem ne_of_isDigit {base : ℕ} {c c' : Char} (hbase : base ≤ 36) (hc' : digitVal c' = 36)
    (h : isDigit base c = true) : c ≠ c' := by
  rintro rfl
  rw [isDigit, decide_eq_true_eq, hc'] at h
  omega

theorem isSpace_of_isDigit {base : ℕ} {c : Char} (hbase : base ≤ 36)
    (h : isDigit base c = true) : isSpace c = false := by
  simp only [isSpace, decide_eq_false_iff_not, not_or]
  refine ⟨?_, ?_, ?_, ?_, ?_, ?_⟩ <;> exact ne_of_isDigit hbase (by decide) h

/-- A character that is neither white space nor NUL, as every character of a numeral is. -/
def IsPlain (c : Char) : Prop := isSpace c = false ∧ c ≠ '\x00'

instance : DecidablePred IsPlain := fun c =>
  inferInstanceAs (Decidable (isSpace c = false ∧ c ≠ '\x00'))

theorem isPlain_of_isDigit {base : ℕ} {c : Char} (hbase : base ≤ 36)
    (h : isDigit base c = true) : IsPlain c :=
  ⟨isSpace_of_isDigit hbase h, ne_of_isDigit hbase (by decide) h⟩

/-- What a sign takes from the front of a text. -/
theorem sign_consumes (t : List Char) : ∃ p, t = p ++ (sign t).2 ∧ ∀ c ∈ p, IsPlain c := by
  rw [sign.eq_def]
  split
  · exact ⟨['-'], rfl, by simp [IsPlain, isSpace]⟩
  · exact ⟨['+'], rfl, by simp [IsPlain, isSpace]⟩
  · exact ⟨[], rfl, by simp⟩

/-- No space has to be skipped before a text that begins, after its sign, with something else. -/
theorem dropWhile_isSpace {t : List Char} (h : ∀ c ∈ (sign t).2.head?, isSpace c = false) :
    t.dropWhile isSpace = t := by
  obtain ⟨p, ht, hp⟩ := sign_consumes t
  rw [ht]
  cases p with
  | nil =>
      cases hr : (sign t).2 with
      | nil => rfl
      | cons c r =>
          rw [hr] at h
          have hc : isSpace c = false := h c rfl
          rw [List.nil_append, List.dropWhile_cons_of_neg (by simp [hc])]
  | cons c p =>
      have hc := (hp c List.mem_cons_self).1
      rw [List.cons_append, List.dropWhile_cons_of_neg (by simp [hc])]

theorem wholeInt_eq_some {t : List Char} {z : ℤ} :
    wholeInt t = some z ↔ ((sign t).2 ≠ [] ∧ ∀ c ∈ (sign t).2, isDigit 10 c = true) ∧
      (if (sign t).1 then -(ofDigits 10 (sign t).2 : ℤ) else ofDigits 10 (sign t).2) = z := by
  rw [wholeInt, ← List.all_eq_true]
  exact Option.ite_none_right_eq_some.trans (and_congr_right fun _ => Option.some_inj)

/-- On an integer numeral, `%d` reads its value. -/
theorem sscanfInt_of_wholeInt {t : List Char} {z : ℤ} (h : wholeInt t = some z) :
    sscanfInt t = some z := by
  obtain ⟨⟨hne, hdigits⟩, hz⟩ := wholeInt_eq_some.1 h
  have hspace : ∀ c ∈ (sign t).2.head?, isSpace c = false := fun c hc =>
    isSpace_of_isDigit (by decide) (hdigits c (List.mem_of_mem_head? hc))
  rw [sscanfInt, dropWhile_isSpace hspace]
  cases hs : sign t with
  | mk minus ds =>
      rw [hs] at hne hdigits hz
      dsimp only at hne hdigits hz ⊢
      rw [List.takeWhile_eq_self_iff.2 hdigits]
      cases ds with
      | nil => exact absurd rfl hne
      | cons c r => exact congrArg some hz

theorem isPlain_of_sign {t : List Char} (h : ∀ c ∈ (sign t).2, IsPlain c) : ∀ c ∈ t, IsPlain c := by
  obtain ⟨p, ht, hp⟩ := sign_consumes t
  rw [ht]
  intro c hc
  rcases List.mem_append.1 hc with hc | hc
  · exact hp c hc
  · exact h c hc

theorem isPlain_of_wholeInt {t : List Char} {z : ℤ} (h : wholeInt t = some z) :
    ∀ c ∈ t, IsPlain c := by
  obtain ⟨⟨-, hdigits⟩, -⟩ := wholeInt_eq_some.1 h
  exact isPlain_of_sign fun c hc => isPlain_of_isDigit (by decide) (hdigits c hc)

/-- What a mantissa takes from the front of a text: digits and points, at least one of them. -/
theorem mantissa_consumes {base : ℕ} {s r : List Char} {q : ℚ}
    (h : mantissa base s = some (q, r)) :
    ∃ p, p ≠ [] ∧ s = p ++ r ∧ ∀ c ∈ p, isDigit base c = true ∨ c = '.' := by
  have hsplit := s.takeWhile_append_dropWhile (p := isDigit base)
  have hwhole : ∀ c ∈ s.takeWhile (isDigit base), isDigit base c = true :=
    fun c hc => List.mem_takeWhile_imp hc
  rw [mantissa.eq_def] at h
  split at h
  · next r' hpoint =>
      obtain ⟨-, h⟩ := Option.ite_none_left_eq_some.1 h
      obtain ⟨-, rfl⟩ := Prod.mk.inj (Option.some_inj.1 h)
      refine ⟨s.takeWhile (isDigit base) ++ '.' :: r'.takeWhile (isDigit base), by simp, ?_, ?_⟩
      · rw [List.append_assoc, List.cons_append, List.takeWhile_append_dropWhile, ← hpoint, hsplit]
      · intro c hc
        rcases List.mem_append.1 hc with hc | hc
        · exact Or.inl (hwhole c hc)
        · rcases List.mem_cons.1 hc with rfl | hc
          · exact Or.inr rfl
          · exact Or.inl (List.mem_takeWhile_imp hc)
  · obtain ⟨hne, h⟩ := Option.ite_none_left_eq_some.1 h
    obtain ⟨-, rfl⟩ := Prod.mk.inj (Option.some_inj.1 h)
    exact ⟨s.takeWhile (isDigit base), hne, hsplit.symm, fun c hc => Or.inl (hwhole c hc)⟩

/-- On the exponent of a numeral, the two readers agree. -/
theorem exponent_of_wholeExponent {mark : Char} {s : List Char} {e : ℤ}
    (h : wholeExponent mark s = some e) : exponent mark s = some e := by
  cases s with
  | nil => exact h
  | cons c r =>
      obtain ⟨hmark, h⟩ := Option.ite_none_right_eq_some.1 h
      obtain ⟨⟨hne, hdigits⟩, hz⟩ := wholeInt_eq_some.1 h
      rw [exponent, if_pos hmark]
      cases hs : sign r with
      | mk minus ds =>
          rw [hs] at hne hdigits hz
          dsimp only at hne hdigits hz ⊢
          rw [List.takeWhile_eq_self_iff.2 hdigits]
          cases ds with
          | nil => exact absurd rfl hne
          | cons c r => exact congrArg some hz

/-- A mark stands in lower or in upper case, so it is none of the characters without a case. -/
theorem isPlain_of_toLower {mark c : Char} (hmark : IsPlain mark) (hc : c.toLower = mark) :
    IsPlain c := by
  by_contra hplain
  have hself : c.toLower = c := by
    simp only [IsPlain, isSpace, decide_eq_false_iff_not, not_and_or, not_not] at hplain
    rcases hplain with (rfl | rfl | rfl | rfl | rfl | rfl) | rfl <;> decide
  exact hplain (hself ▸ hc ▸ hmark)

theorem isPlain_of_wholeExponent {mark : Char} {s : List Char} {e : ℤ} (hmark : IsPlain mark)
    (h : wholeExponent mark s = some e) : ∀ c ∈ s, IsPlain c := by
  cases s with
  | nil => simp
  | cons c r =>
      obtain ⟨hc, h⟩ := Option.ite_none_right_eq_some.1 h
      intro c' hc'
      rcases List.mem_cons.1 hc' with rfl | hc'
      · exact isPlain_of_toLower hmark hc
      · exact isPlain_of_wholeInt h c' hc'

/-- A mantissa with its exponent, read to the end of the text. -/
theorem scaled_of_whole {base : ℕ} {mark : Char} {scale : ℚ → ℤ → ℚ} {s : List Char} {q : ℚ}
    (hbase : base ≤ 36) (hmark : IsPlain mark)
    (h : ((mantissa base s).bind fun (m, r) =>
      (wholeExponent mark r).bind fun e => some (scale m e)) = some q) :
    ((mantissa base s).bind fun (m, r) =>
      (exponent mark r).bind fun e => some (scale m e)) = some q ∧
      (∀ c ∈ s, IsPlain c) ∧ ∃ c ∈ s.head?, isDigit base c = true ∨ c = '.' := by
  obtain ⟨⟨m, r⟩, hm, hexp⟩ := Option.bind_eq_some_iff.1 h
  obtain ⟨e, he, hq⟩ := Option.bind_eq_some_iff.1 hexp
  obtain ⟨p, hne, rfl, hp⟩ := mantissa_consumes hm
  refine ⟨?_, ?_, ?_⟩
  · rw [hm, Option.bind_some]
    dsimp only
    rw [exponent_of_wholeExponent he, Option.bind_some, hq]
  · intro c hc
    rcases List.mem_append.1 hc with hc | hc
    · rcases hp c hc with hdigit | rfl
      · exact isPlain_of_isDigit hbase hdigit
      · decide
    · exact isPlain_of_wholeExponent hmark he c hc
  · obtain ⟨c, p', rfl⟩ := List.exists_cons_of_ne_nil hne
    exact ⟨c, rfl, hp c List.mem_cons_self⟩

/-- On an unsigned numeral, the two readers agree; the numeral begins with a digit or a point. -/
theorem unsignedFloat_of_whole {s : List Char} {q : ℚ} (h : wholeUnsignedFloat s = some q) :
    unsignedFloat s = some q ∧ (∀ c ∈ s, IsPlain c) ∧
      ∃ c ∈ s.head?, isDigit 10 c = true ∨ c = '.' := by
  rw [wholeUnsignedFloat.eq_def] at h
  rw [unsignedFloat.eq_def]
  split at h
  · next x r =>
      dsimp only
      split at h
      · next hx =>
          obtain ⟨hread, hplain, -⟩ := @scaled_of_whole _ _ (fun m e => m * 2 ^ e) _ _
            (by decide) (by decide) h
          refine ⟨?_, ?_, '0', rfl, Or.inl (by decide)⟩
          · rw [if_pos hx]
            exact hread
          · rw [List.forall_mem_cons, List.forall_mem_cons]
            refine ⟨by decide, ?_, hplain⟩
            rcases hx with rfl | rfl <;> decide
      · next hx =>
          obtain ⟨hread, hrest⟩ := @scaled_of_whole _ _ (fun m e => m * 10 ^ e) _ _
            (by decide) (by decide) h
          refine ⟨?_, hrest⟩
          rw [if_neg hx]
          exact hread
  · next hne =>
      obtain ⟨hread, hrest⟩ := @scaled_of_whole _ _ (fun m e => m * 10 ^ e) _ _
        (by decide) (by decide) h
      exact ⟨hread, hrest⟩

/-- What begins with a digit or a point does not begin with a letter, in either case. -/
theorem toLower_of_isDigit {c : Char} (h : isDigit 10 c = true ∨ c = '.') : c.toLower = c := by
  rcases h with h | rfl
  · rw [isDigit, decide_eq_true_eq, digitVal] at h
    split at h
    · next hc =>
        have hnot : ¬ ('A'.val ≤ c.val ∧ c.val ≤ 'Z'.val) := by
          intro hupper
          exact absurd (hupper.1.trans hc.2) (by decide)
        rw [Char.toLower, dif_neg hnot]
    · split at h
      · omega
      · split at h <;> omega
  · decide

theorem wholeFloat_eq_some {t : List Char} {q : ℚ} :
    wholeFloat t = some q ↔ ∃ q', wholeUnsignedFloat (sign t).2 = some q' ∧
      (if (sign t).1 then -q' else q') = q := by
  rw [wholeFloat]
  exact Option.map_eq_some_iff

/-- On a floating-point numeral, `%f` reads its value. -/
theorem sscanfFloat_of_wholeFloat {t : List Char} {q : ℚ} (round : ℚ → CFloat)
    (h : wholeFloat t = some q) : sscanfFloat round t = some (round q) := by
  obtain ⟨q', hq', hq⟩ := wholeFloat_eq_some.1 h
  obtain ⟨hread, -, c, hc, hclass⟩ := unsignedFloat_of_whole hq'
  have hspace : ∀ c' ∈ (sign t).2.head?, isSpace c' = false := by
    intro c' hc'
    rw [Option.mem_unique hc' hc]
    rcases hclass with hdigit | rfl
    · exact isSpace_of_isDigit (by decide) hdigit
    · decide
  -- The numeral is neither `nan` nor `inf`: these begin with a letter.
  have hletter : ∀ (w : List Char) (l : Char), l.toLower = l → isDigit 10 l = false → l ≠ '.' →
      ¬ (l :: w) <+: (sign t).2.map Char.toLower := by
    intro w l hl hdigit hpoint hpre
    obtain ⟨s, hs⟩ := hpre
    obtain ⟨r, hr⟩ : ∃ r, (sign t).2 = c :: r := List.head?_eq_some_iff.1 hc
    rw [hr, List.map_cons, toLower_of_isDigit hclass] at hs
    obtain rfl : l = c := (List.cons_eq_cons.1 hs).1
    rcases hclass with h | h
    · exact absurd h (by simp [hdigit])
    · exact hpoint h
  rw [sscanfFloat, dropWhile_isSpace hspace]
  cases hs : sign t with
  | mk minus r =>
      rw [hs] at hletter hread hq
      dsimp only at hletter hread hq ⊢
      have hnan : ¬ "nan".toList <+: r.map Char.toLower :=
        hletter ['a', 'n'] 'n' (by decide) (by decide) (by decide)
      have hinf : ¬ "inf".toList <+: r.map Char.toLower :=
        hletter ['n', 'f'] 'i' (by decide) (by decide) (by decide)
      rw [if_neg hnan, if_neg hinf, hread, Option.map_some, hq]

/-- A numeral holds no white space and no NUL. -/
theorem isPlain_of_wholeFloat {t : List Char} {q : ℚ} (h : wholeFloat t = some q) :
    ∀ c ∈ t, IsPlain c := by
  obtain ⟨q', hq', -⟩ := wholeFloat_eq_some.1 h
  exact isPlain_of_sign (unsignedFloat_of_whole hq').2.1

/-! ### `strtoul` on a numeral -/

theorem wholeDigits_eq_some {base n : ℕ} {ds : List Char} :
    wholeDigits base ds = some n ↔
      (ds ≠ [] ∧ ∀ c ∈ ds, isDigit base c = true) ∧ ofDigits base ds = n := by
  rw [wholeDigits, ← List.all_eq_true]
  exact Option.ite_none_right_eq_some.trans (and_congr_right fun _ => Option.some_inj)

/-- The base that `strtoul` selects by a prefix, and the characters it then reads as digits. -/
def basePrefix (r : List Char) : ℕ × List Char :=
  match r with
  | '0' :: x :: d :: r' =>
      if (x = 'x' ∨ x = 'X') ∧ isDigit 16 d then (16, d :: r') else (8, r)
  | '0' :: _ => (8, r)
  | _ => (10, r)

/-- A leading zero does not matter before other digits. -/
theorem wholeDigits_zero_cons {base : ℕ} (hbase : 0 < base) {ds : List Char} (hne : ds ≠ []) :
    wholeDigits base ('0' :: ds) = wholeDigits base ds := by
  have hzero : isDigit base '0' = true := decide_eq_true (by simpa [digitVal] using hbase)
  have hval : ofDigits base ('0' :: ds) = ofDigits base ds := by simp [ofDigits, digitVal]
  simp [wholeDigits, hzero, hval, hne]

theorem wholeDigits_eq_none {base : ℕ} {ds : List Char} {c : Char} (hc : c ∈ ds)
    (hdigit : isDigit base c = false) : wholeDigits base ds = none := by
  refine if_neg fun h => ?_
  rw [List.all_eq_true.1 h.2 c hc] at hdigit
  exact absurd hdigit (by simp)

/-- A text is a numeral in full exactly if all the characters behind its prefix are digits. -/
theorem wholeUnsigned_eq_wholeDigits (r : List Char) :
    wholeUnsigned r = wholeDigits (basePrefix r).1 (basePrefix r).2 := by
  have hmark : ∀ x, x = 'x' ∨ x = 'X' → isDigit 8 x = false := by
    rintro x (rfl | rfl) <;> decide
  match r with
  | [] => rfl
  | [c] =>
      by_cases hc : c = '0'
      · subst hc
        decide
      · simp [wholeUnsigned, basePrefix, hc]
  | [c, x] =>
      by_cases hc : c = '0'
      · subst hc
        have hprefix : basePrefix ['0', x] = (8, ['0', x]) := rfl
        by_cases hx : x = 'x' ∨ x = 'X'
        · rw [wholeUnsigned, if_pos hx, hprefix,
            @wholeDigits_eq_none _ ['0', x] _
              (List.mem_cons_of_mem _ List.mem_cons_self) (hmark x hx)]
          rfl
        · rw [wholeUnsigned, if_neg hx, hprefix,
            wholeDigits_zero_cons (by decide : 0 < 8) (List.cons_ne_nil _ _)]
      · simp [wholeUnsigned, basePrefix, hc]
  | c :: x :: d :: r =>
      by_cases hc : c = '0'
      · subst hc
        by_cases hx : x = 'x' ∨ x = 'X'
        · rw [wholeUnsigned, if_pos hx, basePrefix]
          by_cases hd : isDigit 16 d = true
          · rw [if_pos ⟨hx, hd⟩]
          · -- without a hexadecimal digit behind it, the mark is no digit either
            rw [if_neg fun h => hd h.2, wholeDigits_eq_none (c := d) (by simp) (by simpa using hd),
              wholeDigits_eq_none (c := x) (by simp) (hmark x hx)]
        · rw [wholeUnsigned, if_neg hx, basePrefix, if_neg fun h => hx h.1,
            wholeDigits_zero_cons (by decide : 0 < 8) (List.cons_ne_nil _ _)]
      · simp [wholeUnsigned, basePrefix, hc]

/-- `strtoul` reads the digits behind the prefix, and wraps the value behind a minus. -/
theorem strtoul_eq (max : ℕ) (s : List Char) :
    strtoul max s =
      let (minus, r) := sign (s.dropWhile isSpace)
      let (base, r) := basePrefix r
      match r.takeWhile (isDigit base) with
      | [] => { value := 0, range := false, rest := none }
      | ds =>
          let n := ofDigits base ds
          let rest := some (r.dropWhile (isDigit base))
          if max < n then { value := max, range := true, rest := rest }
          else { value := if minus then (max + 1 - n) % (max + 1) else n
                 range := false
                 rest := rest } := rfl

/-- What `strtoul` makes of a text whose part behind white space and a sign is a numeral. -/
theorem strtoul_of_wholeUnsigned {max n : ℕ} {s : List Char}
    (h : wholeUnsigned (sign (s.dropWhile isSpace)).2 = some n) :
    strtoul max s =
      if max < n then { value := max, range := true, rest := some [] }
      else { value := if (sign (s.dropWhile isSpace)).1 then (max + 1 - n) % (max + 1) else n
             range := false
             rest := some [] } := by
  rw [wholeUnsigned_eq_wholeDigits] at h
  obtain ⟨⟨hne, hdigits⟩, hn⟩ := wholeDigits_eq_some.1 h
  rw [strtoul_eq]
  dsimp only
  rw [List.takeWhile_eq_self_iff.2 hdigits, List.dropWhile_eq_nil_iff.2 hdigits]
  generalize (basePrefix (sign (s.dropWhile isSpace)).2).2 = ds at *
  cases ds with
  | nil => exact absurd rfl hne
  | cons c ds => rw [← hn]

/-- Otherwise it leaves something unread, if it reads anything. -/
theorem strtoul_rest_ne_nil {max : ℕ} {s : List Char}
    (h : wholeUnsigned (sign (s.dropWhile isSpace)).2 = none) :
    (strtoul max s).rest ≠ some [] := by
  rw [wholeUnsigned_eq_wholeDigits] at h
  rw [strtoul_eq]
  dsimp only
  generalize (basePrefix (sign (s.dropWhile isSpace)).2).1 = base at *
  generalize (basePrefix (sign (s.dropWhile isSpace)).2).2 = ds at *
  cases hds : ds.takeWhile (isDigit base) with
  | nil => simp
  | cons c rest =>
      have hne : ds ≠ [] := by
        rintro rfl
        exact absurd hds (by simp)
      have hdrop : ds.dropWhile (isDigit base) ≠ [] := by
        intro hnil
        rw [wholeDigits, if_pos ⟨hne, List.all_eq_true.2 (List.dropWhile_eq_nil_iff.1 hnil)⟩] at h
        exact absurd h (by simp)
      dsimp only
      split <;> simpa using hdrop

example : sscanfInt "-12ab".toList = some (-12) := by decide
example : (strtoul 4294967295 "0x40".toList).value = 64 := by decide
example : wholeInt "12ab".toList = none := by decide
example : wholeUnsigned "0x1f".toList = some 31 := by decide
example : sscanfFloat .fin "2.5e1Hz".toList = some (.fin 25) := by decide +kernel
example : sscanfFloat .fin "1e".toList = none := by decide +kernel

end CNumeral
