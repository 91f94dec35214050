/-
**The rates for which the arithmetic of a scan is defined.**

`SET RATE` stores whatever `sscanf` reads, and the rate goes on into four conversions: the
rounded-up quotient `500 / rate` into `uint32_t`, and the nanoseconds of a frame and of a sub-frame
into `int`, besides the division by the number of averages.

* `ArithmeticOk`, `RateOk` — all of them are defined;
* `RateInRange` — the rate is a number from `10^9 / (2^31 - 1)` to `10^9`;
* `storedRate`, `rateTokens` — the rate after a run, from the arguments of its `SET RATE` commands;
* `Latched` — as soon as a scan has started, the number of averages is that of the stored rate;
* `rate_arithmetic_iff` — **the arithmetic is defined exactly if the stored rate is in range**;
* `quarter_hertz` — a rate of 0.25 Hz is stored, and its frame period does not fit.
-/

import MpsEmulator.ScanThread

set_option relaxedAutoImplicit false
set_option autoImplicit false

namespace MpsEmulator

open CNumeral

/-! ### The conversions -/

/-- The number can be converted to a positive `int`. -/
def PositiveInt32 (q : ℚ) : Prop := 1 ≤ q ∧ q ≤ 2 ^ 31 - 1

/-- The rate is positive and finite, there is an average to take, and all conversions of a scan
start and a frame with these numbers are defined. -/
def ArithmeticOk : CFloat → ℕ → Prop
  | .fin q, n =>
      0 < q ∧ (q < 500 → 1 ≤ ⌈500 / q⌉ ∧ ⌈500 / q⌉ ≤ 2 ^ 32 - 1) ∧ 1 ≤ n ∧
        PositiveInt32 (10 ^ 9 / q) ∧ PositiveInt32 (10 ^ 9 / (q * n))
  | _, _ => False

/-- The arithmetic is defined for the rate and the number of averages of the device. -/
def RateOk (d : Mps) : Prop := ArithmeticOk d.cfg.scanRateHz d.nSubFrameAverages

/-- The rates that fit. -/
def RateInRange : CFloat → Prop
  | .fin q => 10 ^ 9 / (2 ^ 31 - 1) ≤ q ∧ q ≤ 10 ^ 9
  | _ => False

instance (q : ℚ) : Decidable (PositiveInt32 q) :=
  inferInstanceAs (Decidable (1 ≤ q ∧ q ≤ 2 ^ 31 - 1))

instance : ∀ rate n, Decidable (ArithmeticOk rate n)
  | .fin q, n =>
      inferInstanceAs (Decidable (0 < q ∧
        (q < 500 → 1 ≤ ⌈500 / q⌉ ∧ ⌈500 / q⌉ ≤ 2 ^ 32 - 1) ∧ 1 ≤ n ∧
        PositiveInt32 (10 ^ 9 / q) ∧ PositiveInt32 (10 ^ 9 / (q * n))))
  | .inf _, _ | .nan, _ => inferInstanceAs (Decidable False)

instance (d : Mps) : Decidable (RateOk d) :=
  inferInstanceAs (Decidable (ArithmeticOk d.cfg.scanRateHz d.nSubFrameAverages))

instance : DecidablePred RateInRange
  | .fin q => inferInstanceAs (Decidable (10 ^ 9 / (2 ^ 31 - 1) ≤ q ∧ q ≤ 10 ^ 9))
  | .inf _ | .nan => inferInstanceAs (Decidable False)

variable {E : Env}

/-- The frame period fits exactly for the rates in range. -/
theorem positiveInt32_iff {q : ℚ} (hq : 0 < q) :
    PositiveInt32 (10 ^ 9 / q) ↔ RateInRange (.fin q) := by
  rw [PositiveInt32, RateInRange, le_div_iff₀ hq, one_mul, div_le_iff₀ hq,
    div_le_iff₀ (by norm_num), mul_comm q, and_comm]

/-- The quotient that `UpdateScanAverages` rounds up is positive, and small for a rate in range. -/
theorem ceil_mem {q : ℚ} (hq : 0 < q) (hrange : RateInRange (.fin q)) :
    1 ≤ ⌈500 / q⌉ ∧ ⌈500 / q⌉ ≤ 2 ^ 32 - 1 := by
  constructor
  · exact Int.one_le_ceil_iff.2 (by positivity)
  · refine Int.ceil_le.2 ?_
    rw [div_le_iff₀ hq]
    have hlow : (10 : ℚ) ^ 9 / (2 ^ 31 - 1) ≤ q := hrange.1
    push_cast
    nlinarith

/-- Below 500 Hz the number of averages is the rounded-up quotient. -/
theorem averagesFor_of_lt {q : ℚ} (hq : q < 500) (hceil : 1 ≤ ⌈500 / q⌉ ∧ ⌈500 / q⌉ ≤ 2 ^ 32 - 1)
    (hpos : 0 < q) : (averagesFor E (.fin q) : ℤ) = ⌈500 / q⌉ := by
  have htrunc : truncate ((⌈500 / q⌉ : ℤ) : ℚ) = ⌈500 / q⌉ := by
    rw [truncate_of_nonneg (by exact_mod_cast zero_le_one.trans hceil.1), Int.floor_intCast]
  rw [averagesFor, CFloat.ge, if_neg (by simpa using hq), CFloat.divInto, if_neg hpos.ne',
    CFloat.ceil, CFloat.toUInt32_fin (by omega) (by omega), htrunc, Int.toNat_of_nonneg (by omega)]

theorem averagesFor_of_le {q : ℚ} (hq : 500 ≤ q) : averagesFor E (.fin q) = 1 := by
  rw [averagesFor, CFloat.ge, if_pos (by simpa using hq)]

/-- From 500 samples a second on, as many as the averages ask for, the sub-frame period fits. -/
theorem positiveInt32_of_le {x : ℚ} (hlow : 500 ≤ x) (hhigh : x ≤ 10 ^ 9) :
    PositiveInt32 (10 ^ 9 / x) := by
  have hx : 0 < x := by linarith
  constructor
  · rwa [le_div_iff₀ hx, one_mul]
  · rw [div_le_iff₀ hx]
    linarith

/-- With the averages of a rate in range, everything is defined. -/
theorem rateOk_of_inRange {d : Mps} {q : ℚ} (hrate : d.cfg.scanRateHz = .fin q)
    (hn : d.nSubFrameAverages = averagesFor E (.fin q)) (hrange : RateInRange (.fin q)) :
    RateOk d := by
  have hpos : 0 < q := lt_of_lt_of_le (by norm_num) hrange.1
  rw [RateOk, hrate]
  refine ⟨hpos, fun _ => ceil_mem hpos hrange, ?_, (positiveInt32_iff hpos).2 hrange, ?_⟩
  · rcases lt_or_ge q 500 with hq | hq
    · have hceil := ceil_mem hpos hrange
      have := averagesFor_of_lt (E := E) hq hceil hpos
      omega
    · rw [hn, averagesFor_of_le hq]
  · rcases lt_or_ge q 500 with hq | hq
    · have hceil := averagesFor_of_lt (E := E) hq (ceil_mem hpos hrange) hpos
      have hcast : (d.nSubFrameAverages : ℚ) = ⌈500 / q⌉ := by
        rw [hn]
        exact_mod_cast hceil
      have hlow : 500 ≤ q * ⌈500 / q⌉ := by
        rw [mul_comm, ← div_le_iff₀ hpos]
        exact Int.le_ceil _
      have hhigh : q * ⌈500 / q⌉ < 500 + q := by
        calc q * ⌈500 / q⌉ < q * (500 / q + 1) :=
              mul_lt_mul_of_pos_left (Int.ceil_lt_add_one _) hpos
          _ = 500 + q := by field_simp
      rw [hcast]
      exact positiveInt32_of_le hlow (by linarith)
    · rw [hn, averagesFor_of_le hq, Nat.cast_one, mul_one]
      exact (positiveInt32_iff hpos).2 hrange

/-- Whatever the number of averages, a rate out of range is not defined. -/
theorem rateInRange_of_rateOk {d : Mps} (h : RateOk d) : RateInRange d.cfg.scanRateHz := by
  rw [RateOk] at h
  cases hrate : d.cfg.scanRateHz with
  | fin q =>
      rw [hrate] at h
      exact (positiveInt32_iff h.1).1 h.2.2.2.1
  | inf negative => rw [hrate] at h; exact h
  | nan => rw [hrate] at h; exact h

/-! ### The stored rate -/

/-- The rate after the arguments of some `SET RATE` commands: an argument that is not a number
leaves it as it is. -/
def storedRate (E : Env) (rate : CFloat) (tokens : List Bytes) : CFloat :=
  tokens.foldl (fun rate t => (sscanfFloat E.roundToFloat (cStr t)).getD rate) rate

/-- The arguments of the `SET RATE` commands of a run. -/
def rateTokens (as : List ScanAction) : List Bytes :=
  as.filterMap fun a =>
    match a with
    | .command _ cmd => rateToken cmd
    | _ => none

variable {s s' : Scanner} {a : ScanAction}

/-- A step stores the rate of its `SET RATE`, if it has one. -/
theorem step_rate (h : step E s a = some s') :
    s'.device.cfg.scanRateHz = storedRate E s.device.cfg.scanRateHz (rateTokens [a]) := by
  cases a with
  | startScan now => rw [← Option.some_inj.1 h]; simp [storedRate, rateTokens]
  | stopScan => rw [← Option.some_inj.1 h]; simp [storedRate, rateTokens]
  | calZ => rw [← Option.some_inj.1 h]; rfl
  | thread => rw [(threadStep_settings h).1]; rfl
  | command x cmd =>
      rw [← Option.some_inj.1 h]
      have hdev := parseCommands_device E x s.device cmd
      cases hv : verb cmd with
      | none => rw [hv] at hdev; simp [hdev, rateTokens, rateToken_of_verb_ne, hv, storedRate]
      | some v =>
          rw [hv] at hdev
          cases v
          case set =>
            cases ht : rateToken cmd with
            | none =>
                simp only [ht] at hdev
                rw [hdev.2]
                simp [rateTokens, ht, storedRate]
            | some t =>
                simp only [ht] at hdev
                rw [hdev]
                simp [rateTokens, ht, storedRate, rateAfter, updateScanAverages]
          all_goals
            simp [hdev, rateTokens, rateToken_of_verb_ne, hv, storedRate, calZ]

/-- The rate after a run is the one its `SET RATE` commands have stored. -/
theorem exec_rate {as : List ScanAction} (hrun : Runs.exec (step E) s as = some s') :
    s'.device.cfg.scanRateHz = storedRate E s.device.cfg.scanRateHz (rateTokens as) := by
  induction as generalizing s with
  | nil => rw [← Option.some_inj.1 hrun]; rfl
  | cons a as ih =>
      obtain ⟨s₁, hstep, hrun⟩ := Runs.exec_cons_eq_some.1 hrun
      have hsplit : rateTokens (a :: as) = rateTokens [a] ++ rateTokens as := by
        rw [rateTokens, rateTokens, rateTokens, ← List.filterMap_append, List.singleton_append]
      rw [ih hrun, step_rate hstep, hsplit, storedRate, storedRate, storedRate, List.foldl_append]

/-! ### The number of averages follows the rate -/

/-- The points of the code that are inside the loop over the frames of a scan. -/
def ThreadPc.inFrame : ThreadPc → Bool
  | .frameBegin | .subFrame | .average | .emit | .frameEnd | .limitStop | .nextFrame => true
  | _ => false

/-- While a scan is on, and while the thread is still in a frame of it, the number of averages is
the one for the stored rate. -/
def Latched (E : Env) (s : Scanner) : Prop :=
  s.device.scanning = true ∨ s.thread.pc.inFrame →
    s.device.nSubFrameAverages = averagesFor E s.device.cfg.scanRateHz

/-- The thread begins a frame only while a scan is on. -/
theorem inFrame_of_threadStep (h : threadStep E s = some s') (hin : s'.thread.pc.inFrame) :
    s.device.scanning = true ∨ s.thread.pc.inFrame := by
  cases hpc : s.thread.pc <;> simp only [threadStep, hpc] at h <;> try exact Or.inr rfl
  case finished => exact absurd h (by simp)
  case outer =>
    rw [← Option.some_inj.1 h] at hin
    cases hr : s.device.running <;> simp [hr, ThreadPc.inFrame] at hin
  case calTest =>
    rw [← Option.some_inj.1 h] at hin
    cases hc : s.device.calibrating <;> simp [hc, ThreadPc.inFrame] at hin
  case scanTest =>
    rw [← Option.some_inj.1 h] at hin
    cases hs : s.device.scanning
    · simp [hs, ThreadPc.inFrame] at hin
    · exact Or.inl rfl
  all_goals
    rw [← Option.some_inj.1 h] at hin
    simp [ThreadPc.inFrame] at hin

/-- A call that leaves the number of averages as it is does not store a rate either. -/
theorem rateTokens_of_not_installed (h : installedAverages E s a = none) : rateTokens [a] = [] := by
  cases a with
  | command x cmd =>
      rw [installedAverages] at h
      cases hv : verb cmd with
      | none => simp [rateTokens, rateToken_of_verb_ne, hv]
      | some v =>
          by_cases hset : v = .set
          · rw [hset] at hv
            rw [hv] at h
            simp [rateTokens, Option.map_eq_none_iff.1 h]
          · simp [rateTokens, rateToken_of_verb_ne, hv, hset]
  | _ => rfl

/-- What is installed is the number of averages for the rate that is stored then. -/
theorem installedAverages_eq {n : ℕ} (hinstalled : installedAverages E s a = some n)
    (h : step E s a = some s') : n = averagesFor E s'.device.cfg.scanRateHz := by
  have hstarted {d : Mps} (h : startedAverages E d = some n) :
      n = averagesFor E d.cfg.scanRateHz := by
    rw [startedAverages] at h
    exact (Option.some_inj.1 (Option.ite_none_left_eq_some.1 h).2).symm
  rw [step_rate h]
  cases a with
  | startScan now => exact hstarted hinstalled
  | command x cmd =>
      rw [installedAverages] at hinstalled
      by_cases hscan : verb cmd = some .scan
      · rw [hscan] at hinstalled
        simpa [rateTokens, rateToken_of_verb_ne, hscan, storedRate] using hstarted hinstalled
      · have hrate : (rateToken cmd).map (fun t => averagesFor E (rateAfter E s.device.cfg t)) =
            some n := by
          split at hinstalled
          · next hv => exact absurd hv hscan
          · exact hinstalled
        obtain ⟨t, ht, rfl⟩ := Option.map_eq_some_iff.1 hrate
        simp [rateTokens, ht, storedRate, rateAfter]
  | _ => exact absurd hinstalled (by simp [installedAverages])

/-- A call that starts a scan installs the averages. -/
theorem installed_of_starts (h : step E s a = some s') (hoff : s.device.scanning = false)
    (hon : s'.device.scanning = true) : installedAverages E s a ≠ none := by
  have hstart := isStart_of_scanning h hoff hon
  cases a with
  | startScan now => simp [installedAverages, startedAverages, hoff]
  | stopScan => exact absurd hstart (by simp [flagChange, FlagChange.isStart])
  | calZ => exact absurd hstart (by simp [flagChange, FlagChange.isStart])
  | thread => exact absurd hstart isStart_flagChange_thread
  | command x cmd =>
      rw [flagChange] at hstart
      rw [installedAverages]
      split at hstart
      · next hv => simp [hv, startedAverages, hoff]
      all_goals exact absurd hstart (by simp [FlagChange.isStart])

/-- A scan that starts has the averages of its rate. -/
theorem averages_of_starts (h : step E s a = some s') (hoff : s.device.scanning = false)
    (hon : s'.device.scanning = true) :
    s'.device.nSubFrameAverages = averagesFor E s'.device.cfg.scanRateHz := by
  have ha : a ≠ .thread := by
    rintro rfl
    rw [scanning_of_threadStep h hon] at hoff
    cases hoff
  obtain ⟨n, hn⟩ := Option.ne_none_iff_exists'.1 (installed_of_starts h hoff hon)
  rw [step_averages h ha, hn]
  exact installedAverages_eq hn h

/-- A step leaves the averages of the rate that is then stored, or changes neither. -/
theorem averages_step (h : step E s a = some s') :
    s'.device.nSubFrameAverages = averagesFor E s'.device.cfg.scanRateHz ∨
      (s'.device.nSubFrameAverages = s.device.nSubFrameAverages ∧
        s'.device.cfg.scanRateHz = s.device.cfg.scanRateHz) := by
  by_cases ha : a = .thread
  · rw [ha] at h
    obtain ⟨hcfg, haverages⟩ := threadStep_settings h
    exact Or.inr ⟨haverages, by rw [hcfg]⟩
  · have haverages := step_averages h ha
    cases hinstalled : installedAverages E s a with
    | some n =>
        rw [haverages, hinstalled]
        exact Or.inl (installedAverages_eq hinstalled h)
    | none =>
        rw [haverages, hinstalled, step_rate h, rateTokens_of_not_installed hinstalled]
        exact Or.inr ⟨rfl, rfl⟩

/-- Every step keeps the averages with the rate. -/
theorem Latched.step (hlatched : Latched E s) (h : step E s a = some s') : Latched E s' := by
  intro hscan
  by_cases hstarts : s.device.scanning = false ∧ s'.device.scanning = true
  · exact averages_of_starts h hstarts.1 hstarts.2
  rcases averages_step h with hnew | ⟨haverages, hrate⟩
  · exact hnew
  · rw [haverages, hrate]
    refine hlatched ?_
    rcases hscan with hon | hin
    · left
      by_contra hoff
      exact hstarts ⟨Bool.eq_false_iff.2 hoff, hon⟩
    · by_cases ha : a = .thread
      · rw [ha] at h
        exact inFrame_of_threadStep h hin
      · rw [step_thread h ha] at hin
        exact Or.inr hin

/-! ### The arithmetic of every scan -/

/-- After any run of the device that `ServerLayer::OnAttach` makes, a scan that is started, and a
frame that is still under way, have **their arithmetic defined exactly if the stored rate is in
range**. -/
theorem rate_arithmetic_iff {deviceId : MpsDeviceID} {serialNumber : ℕ} {as : List ScanAction}
    (now : Clock)
    (hrun : Runs.exec (step E) (Scanner.start (attachConfig deviceId serialNumber)) as = some s) :
    RateOk (startScan E now s.device).device ∧ (s.thread.pc.inFrame → RateOk s.device) ↔
      RateInRange (storedRate E (.fin 10) (rateTokens as)) := by
  have hrate : s.device.cfg.scanRateHz = storedRate E (.fin 10) (rateTokens as) := exec_rate hrun
  have hlatched : Latched E s := by
    refine Runs.invariant (fun _ _ _ h hstep => Latched.step h hstep) ?_ hrun
    exact fun h => absurd h (by rintro (h | h) <;> cases h)
  rw [← hrate]
  constructor
  · rintro ⟨h, -⟩
    simpa using rateInRange_of_rateOk h
  · intro hrange
    cases hq : s.device.cfg.scanRateHz with
    | fin q =>
        rw [hq] at hrange
        refine ⟨?_, fun hin => ?_⟩
        · refine rateOk_of_inRange (E := E) (by simpa using hq) ?_ hrange
          rw [startScan_averages, startedAverages, ← hq]
          cases hs : s.device.scanning
          · rfl
          · exact hlatched (Or.inl hs)
        · exact rateOk_of_inRange hq (hq ▸ hlatched (Or.inr hin)) hrange
    | inf negative => rw [hq] at hrange; exact absurd hrange id
    | nan => rw [hq] at hrange; exact absurd hrange id

/-- One `SET RATE` command. -/
def setRateCommand (rate : String) : ScanAction :=
  .command .quiet ("SET RATE ".toList ++ rate.toList)

/-- After `SET RATE 100` everything is defined. -/
theorem rate_arithmetic_iff_hundred :
    ∃ s, Runs.exec (step referenceEnv) (Scanner.start (attachConfig mps4264 1))
        [setRateCommand "100"] = some s ∧
      RateOk (startScan referenceEnv { steady := 0, system := 0 } s.device).device := by
  refine ⟨_, rfl, ?_⟩
  have hrun : Runs.exec (step referenceEnv) (Scanner.start (attachConfig mps4264 1))
      [setRateCommand "100"] = some _ := rfl
  exact ((rate_arithmetic_iff { steady := 0, system := 0 } hrun).2 (by decide +kernel)).1

/-- A rate of a quarter of a hertz is a positive number, but its four seconds do not fit into an
`int` of nanoseconds. -/
theorem quarter_hertz :
    ∃ s, Runs.exec (step referenceEnv) (Scanner.start (attachConfig mps4264 1))
        [setRateCommand "0.25"] = some s ∧
      s.device.cfg.scanRateHz = .fin (1 / 4) ∧
      ¬ RateOk (startScan referenceEnv { steady := 0, system := 0 } s.device).device := by
  refine ⟨_, rfl, ?_, ?_⟩ <;> decide +kernel

end MpsEmulator
